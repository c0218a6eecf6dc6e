import ModuleLint.Proofs.Exclusion

/-!
# Pruning loses nothing

A walk does not enter a directory that is left out. Where no pattern takes paths in again, this
decides nothing of its own: a pattern that hits a directory hits every path below it too, so each
file is found just if its own path is not left out.
-/

namespace ModuleLint

open ModuleLint.Text (CharacterNames)

namespace Path

/-- A path lies below another: its segments go on from those of the other. -/
def LiesBelow (below path : String) : Prop :=
  ∃ rest, rest ≠ [] ∧ segments below = segments path ++ rest

end Path

namespace Ignore

open ModuleLint.Path (LiesBelow)

section Below

variable {p : Pattern} {path below : String} {isDirectory : Bool}

/-- The texts along the beginning of a way come first among those along the way. -/
theorem Pattern.exists_texts_append (names rest : List String) :
    ∃ more, p.texts (names ++ rest) = p.texts names ++ more := by
  induction rest using List.reverseRecOn with
  | nil => exact ⟨[], by simp⟩
  | append_singleton rest name ih =>
    obtain ⟨more, hmore⟩ := ih
    rw [← List.append_assoc, texts_concat, hmore, List.append_assoc]
    exact ⟨_, rfl⟩

/-- All that is matched for a directory are directories. -/
theorem Pattern.candidates_directory :
    p.candidates path true =
      (p.texts (Path.segments path)).zip (List.replicate (Path.segments path).length true) := by
  change (p.texts (Path.segments path)).zip _ = _
  cases hnames : Path.segments path with
  | nil => simp [texts, beginnings]
  | cons name names =>
    rw [List.length_cons, Nat.add_sub_cancel, List.replicate_succ']

/-- What is matched for a directory is matched for each path below it. -/
theorem Pattern.candidates_below (hbelow : LiesBelow below path) :
    p.candidates path true <+: p.candidates below isDirectory := by
  obtain ⟨rest, hrest, hsegments⟩ := hbelow
  obtain ⟨more, hmore⟩ := p.exists_texts_append (Path.segments path) rest
  have hlength : (Path.segments below).length - 1 =
      (Path.segments path).length + (rest.length - 1) := by
    have := List.length_pos_iff.mpr hrest
    rw [hsegments, List.length_append]
    omega
  have hcandidates : p.candidates below isDirectory = (p.texts (Path.segments below)).zip
      (List.replicate ((Path.segments below).length - 1) true ++ [isDirectory]) := rfl
  rw [candidates_directory, hcandidates, hlength, List.replicate_add, hsegments, hmore,
    List.append_assoc, List.zip_append (by simp)]
  exact List.prefix_append _ _

variable [CharacterNames]

/-- A pattern hits a path just if its glob can be read and matches something that is matched for
the path. -/
theorem Pattern.hits_eq_ok_true_iff :
    p.hits path isDirectory = .ok true ↔
      ∃ regex, compile p.glob = .ok regex ∧ ∃ candidate ∈ p.candidates path isDirectory,
        (candidate.2 || !p.directoryOnly) = true ∧
          regex.fullMatch candidate.1.toList = true := by
  unfold hits
  split
  · next hnone => simp [hnone]
  · cases hregex : compile p.glob with
    | error fault => simp [bind, Except.bind]
    | ok regex => simp [bind, Except.bind, pure, Except.pure]

/-- A pattern that hits a directory hits every path below it. -/
theorem Pattern.hits_of_liesBelow (hbelow : LiesBelow below path)
    (h : p.hits path true = .ok true) : p.hits below isDirectory = .ok true := by
  obtain ⟨regex, hregex, candidate, hcandidate, hmatch⟩ := hits_eq_ok_true_iff.mp h
  exact hits_eq_ok_true_iff.mpr
    ⟨regex, hregex, candidate, (candidates_below hbelow).subset hcandidate, hmatch⟩

end Below

/-- A pattern that matches within a directory on the way matches within the whole way. -/
theorem Pattern.matchesWithin_below [CharacterNames] {p : Pattern} {way dirs : List String}
    (hway : way <+: dirs) (h : p.matchesWithin way true = true) (name : String)
    (isDirectory : Bool) : p.matchesWithin (dirs ++ [name]) isDirectory = true :=
  matchesWithin_concat.mpr <| .inr <| matchesWithin_of_prefix hway h

end Ignore

namespace Discovery

open ModuleLint.Ignore (Pattern Readable excludes ignores)
open ModuleLint.Path (LiesBelow ofNames)

section Names

variable [CharacterNames]

/-- Where no pattern takes paths in again, a file is lost only by being left out itself. -/
theorem loses_excludes_iff_of_not_negated {patterns : List Pattern} {dirs : List String}
    {name : String} (hplain : ∀ p ∈ patterns, p.negated = false) :
    Loses (excludes patterns) dirs name ↔ excludes patterns (dirs ++ [name]) false = true := by
  refine or_iff_left_of_imp fun hlost => ?_
  obtain ⟨way, hway, hexcluded⟩ := hlost
  rw [excludes, Ignore.lastExcludes_of_not_negated fun p hp _ => hplain p hp,
    List.any_eq_true] at hexcluded ⊢
  obtain ⟨p, hp, hmatch⟩ := hexcluded
  exact ⟨p, hp, Pattern.matchesWithin_below hway hmatch name false⟩

end Names

/-- A project whose ignore lines leave out a directory wherever it lies, another one by its path,
and files by their names. -/
def prunedProject : Directory :=
  [(".gitignore", .file (Text.Utf8.encode "generated/\n/src/old\n*.gen.ts\n")),
    ("src", .directory [("a.ts", .file []),
      ("generated", .directory [("api", .directory [("b.ts", .file [])])]),
      ("old", .directory [("c.ts", .file [])])])]

/-- A file to look for stands next to the directories that are left out, and one in either. -/
theorem hasFile_prunedProject :
    (projectAt prunedProject "").HasFile ["src"] "a.ts" [] ∧
      (projectAt prunedProject "").HasFile ["src", "generated", "api"] "b.ts" [] ∧
      (projectAt prunedProject "").HasFile ["src", "old"] "c.ts" [] := by
  have hproject : projectAt prunedProject "" = prunedProject := rfl
  rw [hproject]
  simp [prunedProject, Directory.HasFile.cons_iff (d := _ :: _)]

end Discovery

end ModuleLint
