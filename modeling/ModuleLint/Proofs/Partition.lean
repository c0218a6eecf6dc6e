import Mathlib
import ModuleLint.Proofs.Names
import ModuleLint.Proofs.Survey

/-!
# Modules partition the files

Every file that belongs to a module stands in the list of that module and in no other one, as often
as it was given, and all other files are left out. The names of modules are proper ones, whatever
the paths look like: what names a module is a segment of a path without dots, or the beginning of
one up to its first dot.
-/

namespace ModuleLint

open ModuleLint.Text (CharacterNames)

namespace Path

variable {path segment : String}

/-- No segment of a path is empty. -/
theorem ne_empty_of_mem_segments (h : segment ∈ segments path) : segment ≠ "" := by
  rw [segments, List.map_append, List.mem_append] at h
  rcases h with h | h
  · rcases root_cases path.toList with hroot | hroot | hroot <;> rw [hroot] at h
    · cases h
    · rw [List.mem_singleton.mp h]
      decide
    · rw [List.mem_singleton.mp h]
      decide
  · obtain ⟨piece, hpiece, rfl⟩ := List.mem_map.mp h
    exact (isSegment_of_mem_pieces hpiece).ne_empty

/-- Behind the first segment of a path no segment has a slash. -/
theorem slash_notMem_of_mem_tail (h : segment ∈ (segments path).tail) :
    '/' ∉ segment.toList := by
  have htail : (segments path).tail ⊆
      ((Text.split '/' path.toList).filter fun s => !isIdle s).map String.ofList := by
    rw [segments, List.map_append]
    rcases root_cases path.toList with hroot | hroot | hroot <;> rw [hroot]
    · exact List.tail_subset _
    · exact List.Subset.refl _
    · exact List.Subset.refl _
  obtain ⟨piece, hpiece, rfl⟩ := List.mem_map.mp (htail h)
  exact (isSegment_of_mem_pieces hpiece).no_slash

end Path

namespace Grouping

/-- What a module can be called: a text that is not empty and has neither dots nor slashes. -/
structure IsModuleName (name : String) : Prop where
  ne_empty : name ≠ ""
  no_dot : '.' ∉ name.toList
  no_slash : '/' ∉ name.toList

variable {path name : String}

/-- Neighbours in a path are segments of it, of which the second is not the first segment. -/
theorem mem_of_find?_neighbours {segments : List String} {test : String × String → Bool}
    {pair : String × String} (h : (neighbours segments).find? test = some pair) :
    pair.1 ∈ segments ∧ pair.2 ∈ segments.tail ∧ test pair = true :=
  ⟨(List.of_mem_zip (List.mem_of_find?_eq_some h)).1,
    (List.of_mem_zip (List.mem_of_find?_eq_some h)).2, List.find?_some h⟩

/-- A segment without dots behind the first segment of a path is a proper name. -/
theorem isModuleName_of_mem_tail (h : name ∈ (Path.segments path).tail)
    (hdot : isDotted name = false) : IsModuleName name where
  ne_empty := Path.ne_empty_of_mem_segments (List.mem_of_mem_tail h)
  no_dot := by simpa [isDotted] using hdot
  no_slash := Path.slash_notMem_of_mem_tail h

/-- A segment that is found by the one before it, and only if it has no dots, is a proper name. -/
theorem isModuleName_of_find?_neighbours {test : String × String → Bool}
    (htest : ∀ pair, test pair = true → isDotted pair.2 = false)
    (h : ((neighbours (Path.segments path)).find? test).map (·.2) = some name) :
    IsModuleName name := by
  obtain ⟨pair, hfind, rfl⟩ := Option.map_eq_some_iff.mp h
  obtain ⟨-, htail, hpair⟩ := mem_of_find?_neighbours hfind
  exact isModuleName_of_mem_tail htail (htest pair hpair)

/-- The module below a container has a proper name. -/
theorem isModuleName_of_belowContainer? (h : belowContainer? (Path.segments path) = some name) :
    IsModuleName name :=
  isModuleName_of_find?_neighbours
    (fun _ hpair => by simpa using (Bool.and_eq_true_iff.mp hpair).2) h

/-- The module below the source root has a proper name. -/
theorem isModuleName_of_belowSourceRoot? (h : belowSourceRoot? (Path.segments path) = some name) :
    IsModuleName name :=
  isModuleName_of_find?_neighbours
    (fun _ hpair => by simpa using (Bool.and_eq_true_iff.mp hpair).2) h

/-- A directory that the next segment is named after has a proper name: it is what that segment
reads before its first dot. -/
theorem isModuleName_of_namesake? (h : namesake? (Path.segments path) = some name) :
    IsModuleName name := by
  obtain ⟨pair, hfind, rfl⟩ := Option.map_eq_some_iff.mp h
  obtain ⟨hmem, htail, htest⟩ := mem_of_find?_neighbours hfind
  have hname : pair.1.toList = pair.2.toList.takeWhile (· != '.') := by
    rw [← beq_iff_eq.mp (Bool.and_eq_true_iff.mp htest).2, String.toList_ofList]
  refine ⟨Path.ne_empty_of_mem_segments hmem, ?_, ?_⟩
  · intro hdot
    rw [hname] at hdot
    simpa using List.mem_takeWhile_imp hdot
  · intro hslash
    rw [hname] at hslash
    exact Path.slash_notMem_of_mem_tail htail (List.takeWhile_subset _ hslash)

/-- The module that a bare file name tells has a proper name. -/
theorem isModuleName_of_bareModule? {extensions : List String} {fileName : String}
    (h : bareModule? extensions fileName = some name) : IsModuleName name := by
  unfold bareModule? at h
  split at h
  · cases h
  next stem _ _ _ =>
    split at h
    · cases h
    · split at h
      next htest =>
        obtain rfl := Option.some.inj h
        simp only [Bool.and_eq_true, List.all_eq_true] at htest
        obtain ⟨⟨⟨hempty, hchars⟩, -⟩, -⟩ := htest
        rw [← String.toList_ofList (l := stem)] at hempty hchars
        -- a stem is made of lower-case letters and hyphens
        refine ⟨by simpa using hempty, ?_, ?_⟩
        · intro hdot
          exact absurd (hchars _ hdot) (by decide)
        · intro hslash
          exact absurd (hchars _ hslash) (by decide)
      · cases h

/-- Every module that a path tells has a proper name. -/
theorem isModuleName_of_moduleOf? {extensions : List String}
    (h : moduleOf? extensions path = some name) : IsModuleName name := by
  rw [moduleOf?, moduleOfSegments?, Option.orElse_eq_some, Option.orElse_eq_some,
    Option.orElse_eq_some] at h
  rcases h with h | ⟨-, h | ⟨-, h | ⟨-, h⟩⟩⟩
  · exact isModuleName_of_belowContainer? h
  · exact isModuleName_of_belowSourceRoot? h
  · exact isModuleName_of_namesake? h
  · obtain ⟨fileName, -, h⟩ := Option.bind_eq_some_iff.mp h
    exact isModuleName_of_bareModule? h

/-- Modules partition files: they are as they come out of these and have proper names, a file that
belongs to a module stands in the list of that module and in no other one, and a file that belongs
to none stands in no list. -/
structure IsPartition (extensions : List String) (files : List SourceFile) (gs : List Group) :
    Prop extends IsGrouping extensions files gs where
  proper : ∀ g ∈ gs, IsModuleName g.name
  exactlyOne : ∀ file ∈ files, ∀ name, moduleOf? extensions file.path = some name →
    ∃ g ∈ gs, g.name = name ∧ ∀ g' ∈ gs, file ∈ g'.files ↔ g' = g
  dropped : ∀ file, moduleOf? extensions file.path = none → ∀ g ∈ gs, file ∉ g.files

section Groups

variable {extensions : List String} {files : List SourceFile} {gs : List Group}

/-- The files of a module are those among all files that belong to it. -/
theorem IsGrouping.mem_files_iff (h : IsGrouping extensions files gs) {g : Group} (hg : g ∈ gs)
    {file : SourceFile} :
    file ∈ g.files ↔ file ∈ files ∧ moduleOf? extensions file.path = some g.name := by
  rw [h.files_eq g hg, filesOf, List.mem_filter, beq_iff_eq]

/-- A file that belongs to a module stands in the list of that module and in no other one. -/
theorem IsGrouping.exists_unique_files (h : IsGrouping extensions files gs) {file : SourceFile}
    (hfile : file ∈ files) {name : String} (hname : moduleOf? extensions file.path = some name) :
    ∃ g ∈ gs, g.name = name ∧ ∀ g' ∈ gs, file ∈ g'.files ↔ g' = g := by
  obtain ⟨g, hg, rfl⟩ := List.mem_map.mp (h.mem_names file hfile name hname)
  refine ⟨g, hg, rfl, fun g' hg' => ?_⟩
  rw [h.mem_files_iff hg', hname, Option.some.injEq]
  constructor
  · intro hboth
    exact List.inj_on_of_nodup_map h.nodup hg' hg hboth.2.symm
  · intro heq
    exact ⟨hfile, heq ▸ rfl⟩

/-- The modules of files partition these. -/
theorem isPartition_groups (extensions : List String) (files : List SourceFile) :
    IsPartition extensions files (groups extensions files) where
  toIsGrouping := isGrouping_groups extensions files
  proper := by
    intro g hg
    have h := isGrouping_groups extensions files
    obtain ⟨file, hfile⟩ := List.exists_mem_of_ne_nil _ (h.files_ne_nil g hg)
    exact isModuleName_of_moduleOf? ((h.mem_files_iff hg).mp hfile).2
  exactlyOne := fun _ hfile _ hname =>
    (isGrouping_groups extensions files).exists_unique_files hfile hname
  dropped := by
    intro file hnone g hg hfile
    have hname := (((isGrouping_groups extensions files).mem_files_iff hg).mp hfile).2
    rw [hnone] at hname
    cases hname

end Groups

end Grouping

namespace Validation

open ModuleLint.Grouping (IsPartition groups moduleOf?)

/-- Modules partition files, whatever the files and the extensions are. So the modules of a report
have different names, and a report counts the discovered files that belong to a module. -/
theorem modules_partition [CharacterNames] :
    (∀ extensions files, IsPartition extensions files (groups extensions files)) ∧
    ∀ tree root switches config report, validate tree root switches config = .ok report →
      report.modules.Nodup ∧ ∃ paths, Discovery.discover tree root config.discovery = .ok paths ∧
        report.checkedFiles = paths.countP fun path =>
          (moduleOf? config.discovery.extensions path).isSome := by
  refine ⟨Grouping.isPartition_groups, ?_⟩
  intro tree root switches config report h
  obtain ⟨-, rules, -, paths, hpaths, rfl⟩ := validate_eq_ok_iff.mp h
  refine ⟨(Grouping.isGrouping_groups _ _).nodup, paths, hpaths, ?_⟩
  rw [Survey.checkedFiles_report_ofPaths, (Grouping.flatMap_files_groups _ _).length_eq,
    ← List.countP_eq_length_filter, List.countP_map]
  simp [Grouping.isGrouped, Function.comp_def]

/-- A project with two modules and a file that belongs to none. -/
def scatteredProject : Directory :=
  [("domains", .directory [("zoo", .directory [("a.ts", .file [])])]),
    ("index.ts", .file []),
    ("src", .directory [("app", .directory [("b.ts", .file [])])])]

/-- The report on that project has its two modules, in the order of their first files, and counts
two of its three files. -/
theorem modules_partition_scattered :
    ∃ report, validate scatteredProject "" none {} = .ok report ∧
      report.modules = ["zoo", "app"] ∧ report.checkedFiles = 2 ∧ report.modules.Nodup ∧
      ∃ paths, Discovery.discover scatteredProject "" {} = .ok paths ∧
        report.checkedFiles = paths.countP fun path => (moduleOf? [".ts"] path).isSome := by
  have hpaths : Discovery.discover scatteredProject "" {} =
      .ok ["domains/zoo/a.ts", "index.ts", "src/app/b.ts"] := by cbv
  have hrun := validate_default_eq_ok rfl hpaths
  obtain ⟨hnodup, hcount⟩ := modules_partition.2 scatteredProject "" none {} _ hrun
  exact ⟨_, hrun, by decide +kernel, by decide +kernel, hnodup, hcount⟩

end Validation

end ModuleLint
