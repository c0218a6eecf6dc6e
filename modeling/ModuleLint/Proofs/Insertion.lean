import ModuleLint.Proofs.Exclusion

/-!
# One more ignore line

The last pattern that matches decides, so a further line changes the outcome for a path only where
no later line speaks for it, and then to its own side. A line that leaves paths out can therefore
only shorten what discovery lists, and one that takes paths in again can only lengthen it, wherever
among the other lines it stands.
-/

namespace ModuleLint

open ModuleLint.Text (CharacterNames)

namespace Ignore

/-- Whether a line takes paths in again: its first mark is an exclamation mark. -/
def isNegatedLine (line : String) : Bool :=
  (Text.strip line.toList).head? == some '!'

/-- The pattern on a line takes paths in again just if the line says so. -/
theorem negated_of_patternOfLine? {line : String} {p : Pattern} (h : patternOfLine? line = some p) :
    p.negated = isNegatedLine line := by
  unfold patternOfLine? at h
  simp only [Option.ite_none_left_eq_some] at h
  obtain ⟨-, -, h⟩ := h
  exact (congrArg Pattern.negated (Option.some.inj h)).symm

section LastExcludes

variable {test : Pattern → Bool} {before after : List Pattern} {q : Pattern}

/-- Later patterns that pass the test take the decision from earlier ones. -/
theorem lastExcludes_append :
    lastExcludes test (before ++ after) =
      if after.any test then lastExcludes test after else lastExcludes test before := by
  rw [lastExcludes, List.filter_append, List.getLast?_append]
  split
  · next hany =>
    obtain ⟨p, hp, htest⟩ := List.any_eq_true.mp hany
    have hne : after.filter test ≠ [] := List.ne_nil_of_mem (List.mem_filter.mpr ⟨hp, htest⟩)
    rw [List.getLast?_eq_some_getLast hne, Option.some_or, lastExcludes,
      List.getLast?_eq_some_getLast hne]
  · next hnone =>
    have hempty : after.filter test = [] := by
      rw [List.filter_eq_nil_iff]
      exact fun p hp htest => hnone (List.any_eq_true.mpr ⟨p, hp, htest⟩)
    rw [hempty, List.getLast?_nil, Option.none_or, lastExcludes]

/-- A further pattern decides where it passes the test and no later one does. -/
theorem lastExcludes_insert :
    lastExcludes test (before ++ q :: after) =
      if test q && !after.any test then !q.negated else lastExcludes test (before ++ after) := by
  rw [lastExcludes_append, lastExcludes_append, ← List.singleton_append, lastExcludes_append]
  cases hafter : after.any test <;> cases hq : test q <;> simp [hafter, hq, lastExcludes]

end LastExcludes

/-- Patterns leave out all the paths that other ones leave out. -/
def LeavesOutAllOf [CharacterNames] (patterns patterns' : List Pattern) : Prop :=
  ∀ names isDirectory,
    excludes patterns' names isDirectory = true → excludes patterns names isDirectory = true

section Insert

variable [CharacterNames] {before after : List Pattern} {q : Pattern}

/-- With a further pattern that leaves paths out, patterns leave out all that they did. -/
theorem leavesOutAllOf_insert (hq : q.negated = false) :
    LeavesOutAllOf (before ++ q :: after) (before ++ after) := by
  intro names isDirectory hexcluded
  rw [excludes, lastExcludes_insert, hq]
  split
  · rfl
  · exact hexcluded

/-- Without a pattern that takes paths in again, patterns leave out all that they did with it. -/
theorem leavesOutAllOf_of_insert (hq : q.negated = true) :
    LeavesOutAllOf (before ++ after) (before ++ q :: after) := by
  intro names isDirectory hexcluded
  rw [excludes, lastExcludes_insert, hq] at hexcluded
  split at hexcluded
  · cases hexcluded
  · exact hexcluded

end Insert

section Lines

variable {before after : List String} {line : String}

/-- A line without a pattern changes nothing, and another adds its pattern between those of the
lines around it. -/
theorem patternsOfLines_insert_cases (before after : List String) (line : String) :
    patternsOfLines (before ++ line :: after) = patternsOfLines (before ++ after) ∨
      ∃ q, q.negated = isNegatedLine line ∧
        patternsOfLines (before ++ after) = patternsOfLines before ++ patternsOfLines after ∧
        patternsOfLines (before ++ line :: after) =
          patternsOfLines before ++ q :: patternsOfLines after := by
  cases hq : patternOfLine? line with
  | none =>
    left
    simp [patternsOfLines, hq]
  | some q =>
    right
    exact ⟨q, negated_of_patternOfLine? hq, by simp [patternsOfLines],
      by simp [patternsOfLines, hq]⟩

variable [CharacterNames]

/-- With a further line that does not take paths in again, lines leave out all that they did. -/
theorem leavesOutAllOf_insert_line (hline : isNegatedLine line = false) :
    LeavesOutAllOf (patternsOfLines (before ++ line :: after))
      (patternsOfLines (before ++ after)) := by
  rcases patternsOfLines_insert_cases before after line with heq | ⟨q, hq, hwithout, hwith⟩
  · rw [heq]
    exact fun names isDirectory => id
  · rw [hwithout, hwith]
    exact leavesOutAllOf_insert (hq.trans hline)

/-- Without a line that takes paths in again, lines leave out all that they did with it. -/
theorem leavesOutAllOf_of_insert_line (hline : isNegatedLine line = true) :
    LeavesOutAllOf (patternsOfLines (before ++ after))
      (patternsOfLines (before ++ line :: after)) := by
  rcases patternsOfLines_insert_cases before after line with heq | ⟨q, hq, hwithout, hwith⟩
  · rw [heq]
    exact fun names isDirectory => id
  · rw [hwithout, hwith]
    exact leavesOutAllOf_of_insert (hq.trans hline)

/-- If all patterns can be read, so can they without the one of a line. -/
theorem Readable.of_insert (h : Readable (patternsOfLines (before ++ line :: after))) :
    Readable (patternsOfLines (before ++ after)) := by
  have hsub : List.Sublist (before ++ after) (before ++ line :: after) :=
    (List.sublist_cons_self line after).append_left before
  exact fun p hp => h p ((hsub.filterMap patternOfLine?).subset hp)

end Lines

end Ignore

namespace Discovery

open ModuleLint.Ignore (Pattern Readable LeavesOutAllOf excludes isNegatedLine patternsOfLines)

/-- Two directories hold the files that are looked for at the same ways. -/
def SameSources (extensions : List String) (d d' : Directory) : Prop :=
  ∀ dirs name, Sought extensions dirs name →
    ((∃ bytes, d.HasFile dirs name bytes) ↔ ∃ bytes, d'.HasFile dirs name bytes)

section Names

variable [CharacterNames]

/-- A file that more patterns do not lose is not lost by fewer. -/
theorem not_loses_of_leavesOutAllOf {ps ps' : List Pattern} {dirs : List String} {name : String}
    (hmore : LeavesOutAllOf ps ps') (h : ¬ Loses (excludes ps) dirs name) :
    ¬ Loses (excludes ps') dirs name := by
  intro hloses
  rcases hloses with hfile | ⟨way, hway, hdir⟩
  · exact h (.inl (hmore _ _ hfile))
  · exact h (.inr ⟨way, hway, hmore _ _ hdir⟩)

/-- Where patterns leave out all that other ones do, discovery by the others lists all that it lists
by them. -/
theorem subset_of_leavesOutAllOf {tree tree' : Directory} {root : String}
    {settings settings' : Settings} {found found' : List String}
    (hwf : (projectAt tree root).WellFormed) (hwf' : (projectAt tree' root).WellFormed)
    (hsame : SameSources settings.extensions (projectAt tree root) (projectAt tree' root))
    (hextensions : settings.extensions = settings'.extensions)
    (hreadable : Readable (patterns tree root settings))
    (hreadable' : Readable (patterns tree' root settings'))
    (hmore : LeavesOutAllOf (patterns tree root settings) (patterns tree' root settings'))
    (h : discover tree root settings = .ok found)
    (h' : discover tree' root settings' = .ok found') : found ⊆ found' := by
  refine subset_of_discover hwf hwf' h h' fun dirs name bytes hfile heligible => ?_
  obtain ⟨hsought, hkept⟩ := (eligible_iff hreadable (hfile.isName hwf)).mp heligible
  refine ⟨(hsame dirs name hsought).mp ⟨bytes, hfile⟩,
    (eligible_iff hreadable' (hfile.isName hwf)).mpr ⟨hextensions ▸ hsought, ?_⟩⟩
  exact not_loses_of_leavesOutAllOf hmore hkept

end Names

/-- A project with a generated file and another one, and an ignore file of the given text. -/
def linesProject (text : String) : Directory :=
  [(".gitignore", .file (Text.Utf8.encode text)),
    ("src", .directory [("a.ts", .file []), ("b.gen.ts", .file [])])]

/-- The text of its ignore file decides nothing about the files of such a project. -/
theorem sameSources_linesProject (extensions : List String) (text text' : String) :
    SameSources extensions (projectAt (linesProject text) "")
      (projectAt (linesProject text') "") := by
  have hproject (text : String) : projectAt (linesProject text) "" = linesProject text := rfl
  intro dirs name hsought
  rw [hproject, hproject]
  simp only [linesProject, Directory.HasFile.cons_iff (d := _ :: _),
    Directory.HasFile.file_iff, Directory.HasFile.directory_iff, exists_or, exists_and_left,
    exists_eq]

end Discovery

end ModuleLint
