import ModuleLint.Proofs.Evaluation
import ModuleLint.Proofs.Schema

/-!
# Switches put together

A rule set is made of switches and then loses the rules of one list after another. What becomes of a
rule can be told from these alone: it runs just if neither its family nor the rule itself is switched
off and no list names it. So neither the order of the switches nor that of the lists matters, and a
switch that is on has no effect at all.
-/

namespace ModuleLint

/-- Families with the same key are the same. -/
theorem Family.key_inj {f f' : Family} : f.key = f'.key ↔ f = f' := by
  rw [← ofKey?_eq_some_iff, ofKey?_key, Option.some.injEq, eq_comm]

/-- No rule is called like a family. -/
theorem Rule.ofKey?_id (r : Rule) : Family.ofKey? r.id = none := by
  cases r <;> decide

/-- No family is called like a rule. -/
theorem Family.key_ne_id (f : Family) (r : Rule) : f.key ≠ r.id := by
  intro h
  have hfound := Family.ofKey?_key f
  rw [h, Rule.ofKey?_id] at hfound
  cases hfound

/-- A fault tells what is wrong with a switch: it is neither on nor off, or its name belongs to
nothing. -/
def RuleFault.TellsOf (fault : RuleFault) (e : String × Data) : Prop :=
  (fault = .notBoolean (.text e.1) e.2 ∧ ∀ on, e.2 ≠ .bool on) ∨
    (fault = .unknownKey (.text e.1) ∧ (∀ family : Family, family.key ≠ e.1) ∧
      ∀ rule : Rule, rule.id ≠ e.1)

/-- A fault tells which names in a list belong to no rule. -/
def RuleFault.TellsOfNames (fault : RuleFault) (ids : List String) : Prop :=
  ∃ names, fault = .unknownRules names ∧
    ∀ id, id ∈ names ↔ id ∈ ids ∧ ∀ rule : Rule, rule.id ≠ id

namespace RuleSet

/-- Switches by name, as a document has them. -/
def asData (switches : List (String × Data)) : List (Data × Data) :=
  switches.map fun e => (.text e.1, e.2)

/-- The rule set of switches, without the rules of one list after another. -/
def composed (switches : List (String × Data)) (lists : List (List String)) :
    Except RuleFault RuleSet := do
  let rules ← ofSwitches (asData switches)
  lists.foldlM without rules

/-- A rule set reflects switches and lists: just the families that are switched off are off, and just
the rules that are switched off or named in a list are disabled. -/
structure Reflects (switches : List (String × Data)) (lists : List (List String))
    (rules : RuleSet) : Prop where
  familyOn_iff : ∀ family : Family,
    rules.familyOn family = true ↔ (family.key, .bool false) ∉ switches
  mem_disabled_iff : ∀ rule : Rule,
    rule ∈ rules.disabled ↔ (rule.id, .bool false) ∈ switches ∨ ∃ ids ∈ lists, rule.id ∈ ids

section Reflects

variable {switches switches' : List (String × Data)} {lists lists' : List (List String)}
  {rules rules' : RuleSet}

/-- In a rule set that reflects switches and lists, a rule runs just if neither its family nor the
rule itself is switched off and no list names it. -/
theorem Reflects.isEnabled_iff (h : Reflects switches lists rules) (rule : Rule) :
    rules.isEnabled rule = true ↔ (rule.family.key, .bool false) ∉ switches ∧
      (rule.id, .bool false) ∉ switches ∧ ∀ ids ∈ lists, rule.id ∉ ids := by
  have hdisabled : (!rules.disabled.contains rule) = true ↔
      (rule.id, .bool false) ∉ switches ∧ ∀ ids ∈ lists, rule.id ∉ ids := by
    rw [Bool.not_eq_true', ← Bool.not_eq_true, List.contains_iff_mem, h.mem_disabled_iff, not_or]
    simp only [not_exists, not_and]
  rw [isEnabled, Bool.and_eq_true, hdisabled, h.familyOn_iff, and_comm]

/-- Rule sets that reflect switches with the same ones off, and lists that name the same rules, run
the same rules. -/
theorem Reflects.isEnabled_eq (h : Reflects switches lists rules)
    (h' : Reflects switches' lists' rules')
    (hswitches : ∀ name, (name, Data.bool false) ∈ switches ↔ (name, .bool false) ∈ switches')
    (hlists : ∀ id, (∃ ids ∈ lists, id ∈ ids) ↔ ∃ ids ∈ lists', id ∈ ids) :
    rules.isEnabled = rules'.isEnabled := by
  funext rule
  have hnamed := not_congr (hlists rule.id)
  simp only [not_exists, not_and] at hnamed
  rw [Bool.eq_iff_iff, h.isEnabled_iff, h'.isEnabled_iff, hswitches, hswitches, hnamed]

/-- The rule set without switches reflects them. -/
theorem reflects_default : Reflects [] [] {} where
  familyOn_iff := fun family => by simp [familyOn]
  mem_disabled_iff := fun rule => by simp

/-- Families are looked up without one of them as they are with it, but that one is not found. -/
theorem lookup_filter_bne (families : List (Family × Bool)) (family family' : Family) :
    (families.filter fun f => f.1 != family).lookup family' =
      if family' = family then none else families.lookup family' := by
  induction families with
  | nil => simp
  | cons f families ih =>
    rw [List.filter_cons, List.lookup_cons]
    by_cases hf : f.1 = family
    · have hdropped : (f.1 != family) = false := by simpa using hf
      rw [hdropped, if_neg Bool.false_ne_true, ih]
      by_cases h : family' = family
      · rw [if_pos h, if_pos h]
      · have hne : (family' == f.1) = false := by simpa [hf] using h
        rw [if_neg h, if_neg h, hne]
    · have hkept : (f.1 != family) = true := by simpa using hf
      rw [if_pos hkept, List.lookup_cons, ih]
      by_cases h : family' = family
      · have hne : (family' == f.1) = false := by simpa [h] using Ne.symm hf
        rw [if_pos h, if_pos h, hne]
      · rw [if_neg h, if_neg h]

/-- A family that is switched is as it is switched, and the others are as they were. -/
theorem familyOn_switch (rules : RuleSet) (family family' : Family) (on : Bool) :
    (rules.switch family on).familyOn family' =
      if family' = family then on else rules.familyOn family' := by
  rw [familyOn, switch, List.lookup_append, lookup_filter_bne]
  by_cases h : family' = family
  · simp [h]
  · have hne : (family' == family) = false := by simpa using h
    rw [if_neg h, if_neg h, List.lookup_cons, hne, List.lookup_nil, Option.or_none, familyOn]

/-- What a switch does to a rule set: the key of a family switches it, and the identifier of a rule
disables it unless it is on. -/
theorem applySwitch_cases {key : String} {value : Data}
    (h : rules.applySwitch (.text key) value = .ok rules') :
    (∃ family on, family.key = key ∧ value = .bool on ∧ rules' = rules.switch family on) ∨
      ∃ rule on, rule.id = key ∧ value = .bool on ∧
        rules' = if on then rules else rules.disable rule := by
  unfold applySwitch at h
  split at h
  next on =>
    split at h
    next family hfamily =>
      exact .inl ⟨family, on, Family.ofKey?_eq_some_iff.mp hfamily, rfl, (Except.ok.inj h).symm⟩
    next rule _ hrule =>
      exact .inr ⟨rule, on, Rule.ofId?_eq_some_iff.mp hrule, rfl, (Except.ok.inj h).symm⟩
    next => cases h
  next => cases h

/-- A rule set reflects one more switch after it was taken in, unless there was one of the same
name. -/
theorem Reflects.applySwitch (h : Reflects switches [] rules) {key : String} {value : Data}
    (hkey : key ∉ switches.map Prod.fst) (hstep : rules.applySwitch (.text key) value = .ok rules') :
    Reflects (switches ++ [(key, value)]) [] rules' := by
  have hnew (v : Data) : (key, v) ∉ switches := fun hmem =>
    hkey (List.mem_map.mpr ⟨(key, v), hmem, rfl⟩)
  obtain ⟨family, on, rfl, rfl, rfl⟩ | ⟨rule, on, rfl, rfl, rfl⟩ := applySwitch_cases hstep
  · constructor
    · intro family'
      rw [familyOn_switch]
      by_cases heq : family' = family
      · subst heq
        simp [hnew]
      · simp [heq, h.familyOn_iff, Family.key_inj]
    · intro rule
      have hne := (Family.key_ne_id family rule).symm
      simpa [hne, switch] using h.mem_disabled_iff rule
  · constructor
    · intro family
      have hne := Family.key_ne_id family rule
      have hfamilies : (if on then rules else rules.disable rule).familyOn family =
          rules.familyOn family := by
        cases on <;> rfl
      simpa [hfamilies, hne] using h.familyOn_iff family
    · intro rule'
      cases on with
      | true => simpa using h.mem_disabled_iff rule'
      | false =>
        simp [disable, h.mem_disabled_iff, Rule.id_injective.eq_iff]

/-- A rule set reflects all switches after they were taken in, if no two have the same name. -/
theorem Reflects.foldlM_applySwitch (h : Reflects switches [] rules)
    {further : List (String × Data)} (hkeys : ((switches ++ further).map Prod.fst).Nodup)
    (hrun : (asData further).foldlM (fun rules e => rules.applySwitch e.1 e.2) rules = .ok rules') :
    Reflects (switches ++ further) [] rules' := by
  induction further generalizing switches rules with
  | nil =>
    obtain rfl := Outcome.pure_eq_ok_iff.mp hrun
    simpa using h
  | cons e further ih =>
    obtain ⟨key, value⟩ := e
    change (rules.applySwitch (.text key) value >>= fun rules => _) = _ at hrun
    obtain ⟨next, hnext, hrun⟩ := Outcome.bind_eq_ok_iff.mp hrun
    rw [List.append_cons] at hkeys ⊢
    refine ih (h.applySwitch ?_ hnext) hkeys hrun
    have hkeys' := (List.nodup_append.mp (List.map_append ▸ hkeys)).1
    rw [List.map_append, List.map_singleton, List.nodup_append] at hkeys'
    exact fun hmem => hkeys'.2.2 key hmem key (List.mem_singleton_self key) rfl

/-- What disabling the rules of a list does to a rule set. -/
theorem without_eq_ok {ids : List String} (h : rules.without ids = .ok rules') :
    rules' = { rules with disabled := rules.disabled ++ ids.filterMap Rule.ofId? } := by
  simp only [without] at h
  split at h
  · exact (Except.ok.inj h).symm
  · cases h

/-- A rule set reflects one more list after its rules were disabled. -/
theorem Reflects.without (h : Reflects switches lists rules) {ids : List String}
    (hstep : rules.without ids = .ok rules') : Reflects switches (lists ++ [ids]) rules' := by
  obtain rfl := without_eq_ok hstep
  constructor
  · exact h.familyOn_iff
  · intro rule
    have hmem : rule ∈ ids.filterMap Rule.ofId? ↔ rule.id ∈ ids := by
      simp [List.mem_filterMap, Rule.ofId?_eq_some_iff]
    rw [List.mem_append, h.mem_disabled_iff, hmem, or_assoc]
    simp [or_and_right, exists_or]

/-- A rule set reflects all lists after the rules of one after another were disabled. -/
theorem Reflects.foldlM_without (h : Reflects switches lists rules)
    {further : List (List String)} (hrun : further.foldlM RuleSet.without rules = .ok rules') :
    Reflects switches (lists ++ further) rules' := by
  induction further generalizing lists rules with
  | nil =>
    obtain rfl := Outcome.pure_eq_ok_iff.mp hrun
    simpa using h
  | cons ids further ih =>
    rw [List.foldlM_cons] at hrun
    obtain ⟨next, hnext, hrun⟩ := Outcome.bind_eq_ok_iff.mp hrun
    rw [List.append_cons]
    exact ih (h.without hnext) hrun

/-- A rule set that is put together reflects what it is made of. -/
theorem reflects_of_composed (hkeys : (switches.map Prod.fst).Nodup)
    (h : composed switches lists = .ok rules) : Reflects switches lists rules := by
  obtain ⟨first, hfirst, hrest⟩ := Outcome.bind_eq_ok_iff.mp h
  have hswitches : Reflects switches [] first :=
    reflects_default.foldlM_applySwitch hkeys hfirst
  exact hswitches.foldlM_without hrest

/-- Switches can be taken in just if each of them makes sense. -/
theorem exists_ofSwitches_asData_iff :
    (∃ rules, ofSwitches (asData switches) = .ok rules) ↔
      ∀ e ∈ switches, Data.IsSwitch (.text e.1, e.2) := by
  rw [Config.exists_ofSwitches_iff, asData, List.forall_mem_map]

/-- A rule set can be put together just if all switches make sense and all lists name rules. -/
theorem exists_composed_iff :
    (∃ rules, composed switches lists = .ok rules) ↔
      (∀ e ∈ switches, Data.IsSwitch (.text e.1, e.2)) ∧
        ∀ ids ∈ lists, ∀ id ∈ ids, ∃ rule : Rule, rule.id = id := by
  have hlist (rules : RuleSet) (ids : List String) : (∃ rules', rules.without ids = .ok rules') ↔
      ∀ id ∈ ids, ∃ rule : Rule, rule.id = id := Config.exists_without_iff rules
  have hlists := Outcome.exists_foldlM_eq_ok_iff hlist lists
  simp only [composed, Outcome.bind_eq_ok_iff, ← exists_ofSwitches_asData_iff]
  constructor
  · intro h
    obtain ⟨rules, first, hfirst, hrest⟩ := h
    exact ⟨⟨first, hfirst⟩, (hlists first).mp ⟨rules, hrest⟩⟩
  · intro h
    obtain ⟨⟨first, hfirst⟩, hnames⟩ := h
    obtain ⟨rules, hrest⟩ := (hlists first).mpr hnames
    exact ⟨rules, first, hfirst, hrest⟩

/-- A switch that cannot be taken in is refused for its value or else for its name. -/
theorem tellsOf_of_applySwitch {e : String × Data} {fault : RuleFault}
    (h : rules.applySwitch (.text e.1) e.2 = .error fault) : fault.TellsOf e := by
  unfold applySwitch at h
  split at h
  next =>
    split at h
    next => cases h
    next => cases h
    next hfamily hrule =>
      refine .inr ⟨(Except.error.inj h).symm, fun family hkey => ?_, fun rule hid => ?_⟩
      · have hfound := Family.ofKey?_eq_some_iff.mpr hkey
        cases hfound.symm.trans hfamily
      · have hfound := Rule.ofId?_eq_some_iff.mpr hid
        cases hfound.symm.trans hrule
  next hvalue => exact .inl ⟨(Except.error.inj h).symm, hvalue⟩

/-- A list whose rules cannot be disabled is refused for the names that belong to no rule. -/
theorem tellsOfNames_of_without {ids : List String} {fault : RuleFault}
    (h : rules.without ids = .error fault) : fault.TellsOfNames ids := by
  simp only [RuleSet.without] at h
  split at h
  next => cases h
  next hunknown =>
    refine ⟨_, (Except.error.inj h).symm, fun id => ?_⟩
    have hnone : (Rule.ofId? id).isNone = true ↔ ∀ rule : Rule, rule.id ≠ id := by
      simp [Option.eq_none_iff_forall_ne_some, Rule.ofId?_eq_some_iff]
    rw [sortedTexts, List.mem_eraseDups, List.mem_mergeSort, List.mem_filter, hnone]

/-- A rule set that cannot be put together is refused for a switch or for names in a list. -/
theorem exists_of_composed_eq_error {fault : RuleFault}
    (h : composed switches lists = .error fault) :
    (∃ e ∈ switches, fault.TellsOf e) ∨ ∃ ids ∈ lists, fault.TellsOfNames ids := by
  rcases Outcome.bind_eq_error_iff.mp h with h | ⟨first, -, h⟩
  · obtain ⟨entry, hentry, before, hstep⟩ := Outcome.exists_of_foldlM_eq_error h
    obtain ⟨e, he, rfl⟩ := List.mem_map.mp hentry
    exact .inl ⟨e, he, tellsOf_of_applySwitch hstep⟩
  · obtain ⟨ids, hids, before, hstep⟩ := Outcome.exists_of_foldlM_eq_error h
    exact .inr ⟨ids, hids, tellsOfNames_of_without hstep⟩

end Reflects

end RuleSet

end ModuleLint
