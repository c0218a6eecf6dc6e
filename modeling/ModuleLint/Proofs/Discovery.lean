import ModuleLint.Proofs.Walk

/-!
# Discovery is exact

Discovery lists the paths of the eligible source files of a project and no others, in the order of
their texts and each of them once. Nothing else about the project matters, in particular not the
order in which directories list their entries.
-/

namespace ModuleLint.Discovery

open ModuleLint.Ignore (Readable patternsOfLines)
open ModuleLint.Path (ofNames)
open ModuleLint.Text (CharacterNames)

/-- The project at a root: what the directory holds that the root leads to, and nothing if it
leads elsewhere. -/
def projectAt (tree : Directory) (root : String) : Directory :=
  match tree.find? (Path.segments root) with
  | some (.directory entries) => entries
  | _ => []

/-- Sorting changes nothing about which paths there are. -/
theorem sortPaths_perm (paths : List String) : (sortPaths paths).Perm paths :=
  List.mergeSort_perm _ _

/-- Paths without repetition are strictly increasing once they are sorted. -/
theorem pairwise_lt_sortPaths {paths : List String} (h : paths.Nodup) :
    (sortPaths paths).Pairwise (· < ·) := by
  have hle : (sortPaths paths).Pairwise fun a b => decide (a ≤ b) = true := by
    apply List.pairwise_mergeSort
    · intro a b c hab hbc
      exact decide_eq_true (String.le_trans (of_decide_eq_true hab) (of_decide_eq_true hbc))
    · intro a b
      simpa using String.le_total a b
  have hne : (sortPaths paths).Nodup := (sortPaths_perm paths).nodup_iff.mpr h
  refine (hle.and hne).imp fun {a b} hab => ?_
  exact Std.lt_of_le_of_ne (by simpa using hab.1) hab.2

/-- The patterns of a project are those of the lines of its ignore file and of the further lines
after them. -/
theorem patterns_eq_patternsOfLines (tree : Directory) (root : String) (settings : Settings) :
    patterns tree root settings =
      patternsOfLines (ignoreLines tree root settings.ignoreFile ++ settings.extraIgnores) :=
  List.filterMap_append.symm

section Names

variable [CharacterNames]

/-- Discovery walks over the project from its root on and sorts what it finds. -/
theorem discover_eq_map_walkEntries (tree : Directory) (root : String) (settings : Settings) :
    discover tree root settings =
      (walkEntries settings (patterns tree root settings) (ofNames []) (projectAt tree root)).map
        sortPaths := by
  have hempty : sortPaths [] = [] := by simp [sortPaths]
  unfold discover projectAt
  cases tree.find? (Path.segments root) with
  | none => simp [walkEntries, Except.map, hempty]
  | some entry =>
    cases entry with
    | file bytes => simp [walkEntries, Except.map, hempty]
    | directory entries => rfl

section Found

variable {tree : Directory} {root : String} {settings : Settings} {found : List String}

/-- What discovery lists is strictly increasing. -/
theorem pairwise_lt_of_discover (hwf : (projectAt tree root).WellFormed)
    (h : discover tree root settings = .ok found) : found.Pairwise (· < ·) := by
  rw [discover_eq_map_walkEntries] at h
  obtain ⟨walked, hwalked, rfl⟩ := Outcome.map_eq_ok_iff.mp h
  exact pairwise_lt_sortPaths (nodup_walkEntries (by simp) open_nil _ hwf hwalked)

/-- What discovery lists are the paths of eligible files. -/
theorem mem_iff_of_discover (hwf : (projectAt tree root).WellFormed)
    (h : discover tree root settings = .ok found) {path : String} :
    path ∈ found ↔ ∃ dirs name bytes, (projectAt tree root).HasFile dirs name bytes ∧
      Eligible settings.extensions (patterns tree root settings) dirs name ∧
      path = ofNames (dirs ++ [name]) := by
  rw [discover_eq_map_walkEntries] at h
  obtain ⟨walked, hwalked, rfl⟩ := Outcome.map_eq_ok_iff.mp h
  rw [(sortPaths_perm walked).mem_iff, mem_walkEntries (by simp) open_nil _ hwf hwalked]
  rfl

end Found

/-- What is listed in one project is listed in another if the eligible files of the one stand in the
other and are eligible there. -/
theorem subset_of_discover {tree tree' : Directory} {root root' : String}
    {settings settings' : Settings} {found found' : List String}
    (hwf : (projectAt tree root).WellFormed) (hwf' : (projectAt tree' root').WellFormed)
    (h : discover tree root settings = .ok found) (h' : discover tree' root' settings' = .ok found')
    (heligible : ∀ dirs name bytes, (projectAt tree root).HasFile dirs name bytes →
      Eligible settings.extensions (patterns tree root settings) dirs name →
      (∃ bytes', (projectAt tree' root').HasFile dirs name bytes') ∧
        Eligible settings'.extensions (patterns tree' root' settings') dirs name) :
    found ⊆ found' := by
  intro path hpath
  obtain ⟨dirs, name, bytes, hfile, hlisted, rfl⟩ := (mem_iff_of_discover hwf h).mp hpath
  obtain ⟨⟨bytes', hfile'⟩, hlisted'⟩ := heligible dirs name bytes hfile hlisted
  exact (mem_iff_of_discover hwf' h').mpr ⟨dirs, name, bytes', hfile', hlisted', rfl⟩

/-- Discovery succeeds where all ignore patterns can be read. -/
theorem exists_discover_eq_ok {tree : Directory} {root : String} {settings : Settings}
    (h : Readable (patterns tree root settings)) :
    ∃ found, discover tree root settings = .ok found := by
  obtain ⟨walked, hwalked⟩ : ∃ walked, walkEntries settings (patterns tree root settings)
      (ofNames []) (projectAt tree root) = .ok walked :=
    exists_walkEntries_eq_ok h _ _
  rw [discover_eq_map_walkEntries, hwalked]
  exact ⟨_, rfl⟩

end Names

/-- A project with generated files, all but one of which its ignore file leaves out. -/
def generatedProject : Directory :=
  [(".gitignore", .file (Text.Utf8.encode "*.gen.ts\n!keep.gen.ts\n")),
    ("dist", .directory [("a.ts", .file [])]),
    ("src", .directory [("a.ts", .file []), ("a.spec.ts", .file []), ("b.gen.ts", .file []),
      ("keep.gen.ts", .file [])])]

end ModuleLint.Discovery
