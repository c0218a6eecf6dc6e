/-!
# Outcomes of steps that may fail

Steps made one after another succeed just if each of them does, and fail as the first that does not.
-/

namespace ModuleLint.Outcome

variable {Fault α β : Type}

/-- A step after another succeeds just if the other one does, and it does on its result. -/
theorem bind_eq_ok_iff {x : Except Fault α} {f : α → Except Fault β} {b : β} :
    (x >>= f) = .ok b ↔ ∃ a, x = .ok a ∧ f a = .ok b := by
  cases x with
  | error fault => simp [bind, Except.bind]
  | ok a => simp [bind, Except.bind]

/-- A function of a result succeeds just if there is a result. -/
theorem map_eq_ok_iff {x : Except Fault α} {f : α → β} {b : β} :
    x.map f = .ok b ↔ ∃ a, x = .ok a ∧ f a = b := by
  cases x with
  | error fault => simp [Except.map]
  | ok a => simp [Except.map]

/-- A step succeeds just as it does when its faults are told differently. -/
theorem mapError_eq_ok_iff {Fault' : Type} {x : Except Fault α} {f : Fault → Fault'} {a : α} :
    x.mapError f = .ok a ↔ x = .ok a := by
  cases x with
  | error fault => exact ⟨nofun, nofun⟩
  | ok b =>
    change (.ok b : Except Fault' α) = .ok a ↔ _
    simp only [Except.ok.injEq]

/-- A step after another fails as the other one does, or as it does on its result. -/
theorem bind_eq_error_iff {x : Except Fault α} {f : α → Except Fault β} {fault : Fault} :
    (x >>= f) = .error fault ↔ x = .error fault ∨ ∃ a, x = .ok a ∧ f a = .error fault := by
  cases x with
  | error fault' => simp [bind, Except.bind]
  | ok a => simp [bind, Except.bind]

/-- A function of a result fails just as the step with the result does. -/
theorem map_eq_error_iff {x : Except Fault α} {f : α → β} {fault : Fault} :
    x.map f = .error fault ↔ x = .error fault := by
  cases x with
  | error fault' => simp [Except.map]
  | ok a => simp [Except.map]

/-- A step whose faults are told differently fails where the step does. -/
theorem mapError_eq_error_iff {Fault' : Type} {x : Except Fault α} {f : Fault → Fault'}
    {fault : Fault'} :
    x.mapError f = .error fault ↔ ∃ fault', x = .error fault' ∧ f fault' = fault := by
  cases x with
  | error fault' =>
    change (.error (f fault') : Except Fault' α) = .error fault ↔ _
    simp only [Except.error.injEq, exists_eq_left']
  | ok a => exact ⟨nofun, nofun⟩

/-- A result that is given back is a success. -/
theorem pure_eq_ok_iff {a b : α} : (pure a : Except Fault α) = .ok b ↔ a = b := by
  simp [pure, Except.pure]

/-- Steps over items succeed just if every item is proper, where each step succeeds just if its item
is. -/
theorem exists_foldlM_eq_ok_iff {step : β → α → Except Fault β} {proper : α → Prop}
    (hstep : ∀ b a, (∃ b', step b a = .ok b') ↔ proper a) (items : List α) (b : β) :
    (∃ b', items.foldlM step b = .ok b') ↔ ∀ a ∈ items, proper a := by
  induction items generalizing b with
  | nil => simp [pure, Except.pure]
  | cons a items ih =>
    rw [List.forall_mem_cons, ← hstep b a]
    constructor
    · intro h
      obtain ⟨last, hlast⟩ := h
      rw [List.foldlM_cons, bind_eq_ok_iff] at hlast
      obtain ⟨next, hnext, hlast⟩ := hlast
      exact ⟨⟨next, hnext⟩, (ih next).mp ⟨last, hlast⟩⟩
    · intro h
      obtain ⟨⟨next, hnext⟩, hitems⟩ := h
      obtain ⟨last, hlast⟩ := (ih next).mpr hitems
      exact ⟨last, by rw [List.foldlM_cons, bind_eq_ok_iff]; exact ⟨next, hnext, hlast⟩⟩

/-- Steps over items fail only as the step on one of the items does. -/
theorem exists_of_foldlM_eq_error {step : β → α → Except Fault β} {items : List α} {b : β}
    {fault : Fault} (h : items.foldlM step b = .error fault) :
    ∃ a ∈ items, ∃ b', step b' a = .error fault := by
  induction items generalizing b with
  | nil => cases h
  | cons a items ih =>
    rw [List.foldlM_cons, bind_eq_error_iff] at h
    rcases h with h | ⟨next, -, h⟩
    · exact ⟨a, List.mem_cons_self, b, h⟩
    · obtain ⟨a', ha', hfault⟩ := ih h
      exact ⟨a', List.mem_cons_of_mem a ha', hfault⟩

/-- A step for each of some items succeeds just if each of them does. -/
theorem forM_eq_ok_iff {step : α → Except Fault Unit} {items : List α} :
    items.forM step = .ok () ↔ ∀ a ∈ items, step a = .ok () := by
  induction items with
  | nil => exact iff_of_true rfl nofun
  | cons a items ih =>
    change (step a >>= fun _ => items.forM step) = .ok () ↔ _
    rw [bind_eq_ok_iff, List.forall_mem_cons, ← ih]
    constructor
    · intro h
      obtain ⟨u, ha, hitems⟩ := h
      exact ⟨ha, hitems⟩
    · intro h
      exact ⟨(), h.1, h.2⟩

end ModuleLint.Outcome
