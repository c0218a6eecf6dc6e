import ModuleLint.Ignore.Pattern
import ModuleLint.Proofs.Outcome

/-!
# Matching ignore patterns

Whether patterns leave a path out is decided unless one of them has a glob that cannot be read.
-/

namespace ModuleLint.Ignore

variable [Text.CharacterNames]

/-- The globs of all patterns can be read. -/
def Readable (patterns : List Pattern) : Prop :=
  ∀ p ∈ patterns, ∃ regex, compile p.glob = .ok regex

instance (patterns : List Pattern) : Decidable (Readable patterns) :=
  decidable_of_iff (∀ p ∈ patterns, (compile p.glob).toOption.isSome = true) <| by
    refine forall₂_congr fun p _ => ?_
    cases compile p.glob <;> simp [Except.toOption]

/-- A pattern whose glob can be read hits a path just if the glob matches something that is matched
for the path. -/
theorem Pattern.hits_eq_ok {p : Pattern} {regex : Regex}
    (hregex : compile p.glob = .ok regex) (path : String) (isDirectory : Bool) :
    p.hits path isDirectory = .ok ((p.candidates path isDirectory).any fun (text, isDirectory) =>
      (isDirectory || !p.directoryOnly) && regex.fullMatch text.toList) := by
  unfold hits
  split
  · next hnone => rw [hnone, List.any_nil]
  · rw [hregex]
    rfl

/-- A pattern whose glob can be read hits a path or does not. -/
theorem Pattern.exists_hits_eq_ok {p : Pattern} (h : ∃ regex, compile p.glob = .ok regex)
    (path : String) (isDirectory : Bool) : ∃ hit, p.hits path isDirectory = .ok hit := by
  obtain ⟨regex, hregex⟩ := h
  exact ⟨_, hits_eq_ok hregex path isDirectory⟩

/-- Readable patterns leave a path out or do not. -/
theorem Readable.exists_ignores_eq_ok {patterns : List Pattern} (h : Readable patterns)
    (path : String) (isDirectory : Bool) :
    ∃ ignored, ignores patterns path isDirectory = .ok ignored := by
  unfold ignores
  generalize false = before
  induction patterns generalizing before with
  | nil => exact ⟨before, rfl⟩
  | cons p ps ih =>
    obtain ⟨hit, hhit⟩ :=
      Pattern.exists_hits_eq_ok (h p List.mem_cons_self) path isDirectory
    obtain ⟨ignored, hignored⟩ :=
      ih (fun q hq => h q (List.mem_cons_of_mem _ hq)) (if hit then !p.negated else before)
    refine ⟨ignored, ?_⟩
    rw [List.foldlM_cons, hhit]
    exact hignored

end ModuleLint.Ignore
