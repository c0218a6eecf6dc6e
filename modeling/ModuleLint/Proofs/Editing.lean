import Mathlib
import ModuleLint.Proofs.Discovery
import ModuleLint.Proofs.Isolation

/-!
# Editing one file

If the bytes of one source file are changed, nothing changes in the report but the findings in that
file. There is one exception: a resolver file may compute other fields then, and so may cover other
properties of persisted classes.
-/

namespace ModuleLint

open ModuleLint.Text (CharacterNames)

/-- Two directories hold files at the same ways, and at each way but those of one path they hold the
same bytes. -/
structure Directory.SameBut (path : String) (d d' : Directory) : Prop where
  same_files : ∀ dirs name,
    (∃ bytes, d.HasFile dirs name bytes) ↔ ∃ bytes, d'.HasFile dirs name bytes
  same_bytes : ∀ dirs name bytes, Path.ofNames (dirs ++ [name]) ≠ path →
    (d.HasFile dirs name bytes ↔ d'.HasFile dirs name bytes)

namespace Discovery

/-- Discovery lists the same paths in two projects that have files at the same ways and the same
ignore lines. -/
theorem discover_congr [CharacterNames] {tree tree' : Directory} {root : String}
    {settings : Settings} {found found' : List String} (hwf : (projectAt tree root).WellFormed)
    (hwf' : (projectAt tree' root).WellFormed)
    (hfiles : ∀ dirs name, (∃ bytes, (projectAt tree root).HasFile dirs name bytes) ↔
      ∃ bytes, (projectAt tree' root).HasFile dirs name bytes)
    (hignore : ignoreLines tree root settings.ignoreFile =
      ignoreLines tree' root settings.ignoreFile)
    (h : discover tree root settings = .ok found) (h' : discover tree' root settings = .ok found') :
    found = found' := by
  have hpatterns : patterns tree root settings = patterns tree' root settings := by
    rw [patterns, patterns, hignore]
  have hlt := pairwise_lt_of_discover hwf h
  have hlt' := pairwise_lt_of_discover hwf' h'
  have hsub : found ⊆ found' :=
    subset_of_discover hwf hwf' h h' fun dirs name bytes hfile heligible =>
      ⟨(hfiles dirs name).mp ⟨bytes, hfile⟩, hpatterns ▸ heligible⟩
  have hsub' : found' ⊆ found :=
    subset_of_discover hwf' hwf h' h fun dirs name bytes hfile heligible =>
      ⟨(hfiles dirs name).mpr ⟨bytes, hfile⟩, hpatterns ▸ heligible⟩
  exact hlt.eq_of_mem_iff hlt' fun path => ⟨fun hpath => hsub hpath, fun hpath => hsub' hpath⟩

/-- The bytes of a file in a project are found by its path from the root. -/
theorem bytes_join {tree : Directory} {root : String} {dirs : List String} {name : String}
    {bytes : List UInt8} (hwf : (projectAt tree root).WellFormed)
    (hfile : (projectAt tree root).HasFile dirs name bytes) :
    tree.bytes (Path.join root (Path.ofNames (dirs ++ [name]))) = .ok bytes := by
  rw [Path.join_ofNames (hfile.isName hwf), Directory.bytes, Directory.find?]
  unfold projectAt at hwf hfile
  split at hfile
  · next entries hroot =>
    simp only [hroot] at hwf
    obtain ⟨outer, hfind⟩ := Directory.findFrom?_append hroot (dirs ++ [name])
    rw [hfind, hfile.findFrom?_eq_some hwf]
  · cases hfile <;> contradiction

end Discovery

namespace Validation

open ModuleLint.Discovery (projectAt ignoreLines discover)

section Texts

variable {tree tree' : Directory} {root path : String} {settings : Discovery.Settings}
  {found : List String}

/-- A discovered file that has the same bytes in two projects has the same text in both. -/
theorem text_congr [CharacterNames] (hwf : (projectAt tree root).WellFormed)
    (hwf' : (projectAt tree' root).WellFormed)
    (hsame : (projectAt tree root).SameBut path (projectAt tree' root))
    (h : discover tree root settings = .ok found) {p : String} (hp : p ∈ found) (hpath : p ≠ path) :
    tree.text (Path.join root p) = tree'.text (Path.join root p) := by
  obtain ⟨dirs, name, bytes, hfile, -, rfl⟩ := (Discovery.mem_iff_of_discover hwf h).mp hp
  have hfile' := (hsame.same_bytes dirs name bytes hpath).mp hfile
  rw [Directory.text, Directory.text, Discovery.bytes_join hwf hfile,
    Discovery.bytes_join hwf' hfile']

end Texts

/-- Two runs that differ in the bytes of one file at most report on the same modules and the same
number of files. Their findings on names and paths are the same. So are their findings in other
files if the one file is no resolver file, and if it is, all of these but the warnings about
properties that nothing covers. -/
theorem validate_edit [CharacterNames] (tree tree' : Directory) (root path : String)
    (switches : Option (List (Data × Data))) (config : Config) (report report' : Report)
    (hwf : (projectAt tree root).WellFormed) (hwf' : (projectAt tree' root).WellFormed)
    (hsame : (projectAt tree root).SameBut path (projectAt tree' root))
    (hignore : ignoreLines tree root config.discovery.ignoreFile =
      ignoreLines tree' root config.discovery.ignoreFile)
    (hrun : validate tree root switches config = .ok report)
    (hrun' : validate tree' root switches config = .ok report') :
    report.modules = report'.modules ∧ report.checkedFiles = report'.checkedFiles ∧
      report.filter Rules.isPathFinding = report'.filter Rules.isPathFinding ∧
      (Role.ofPath path ≠ .resolver →
        report.filter (fun g => g.file != path) = report'.filter fun g => g.file != path) ∧
      (Role.ofPath path = .resolver →
        report.filter (fun g => g.rule != Rule.missingColumnDecorator.id && g.file != path) =
          report'.filter fun g => g.rule != Rule.missingColumnDecorator.id && g.file != path) := by
  obtain ⟨-, rules, hrules, paths, hpaths, rfl⟩ := validate_eq_ok_iff.mp hrun
  obtain ⟨-, rules', hrules', paths', hpaths', rfl⟩ := validate_eq_ok_iff.mp hrun'
  obtain rfl : rules = rules' := by simpa [hrules] using hrules'
  obtain rfl : paths = paths' :=
    Discovery.discover_congr hwf hwf' hsame.same_files hignore hpaths hpaths'
  have hread : ∀ p ∈ paths, p ≠ path → readText tree root p = readText tree' root p := by
    intro p hp hpath
    rw [readText, readText, text_congr hwf hwf' hsame hpaths hp hpath]
  have hparse : ∀ p ∈ paths, p ≠ path →
      Parsing.ofFile tree root p = Parsing.ofFile tree' root p := by
    intro p hp hpath
    rw [Parsing.ofFile, Parsing.ofFile, text_congr hwf hwf' hsame hpaths hp hpath]
  refine ⟨?_, ?_, Survey.report_filter_isPathFinding hparse rules,
    Survey.report_filter_file_ne hparse hread rules,
    fun _ => Survey.report_filter_rule_ne hparse hread rules⟩
  · rw [Survey.modules_report_ofPaths, Survey.modules_report_ofPaths]
  · rw [Survey.checkedFiles_report_ofPaths, Survey.checkedFiles_report_ofPaths]

/-- A project with a persisted class, and a service file of the given text. -/
def serviceProject (text : String) : Directory :=
  [("src", .directory [("user", .directory
    [("user.model.ts", .file (Text.Utf8.encode "@Entity() class User \x7b id: string \x7d")),
      ("user.service.ts", .file (Text.Utf8.encode text))])])]

/-- Two files stand in such a project. -/
theorem hasFile_serviceProject_iff {text : String} {dirs : List String} {name : String}
    {bytes : List UInt8} : (serviceProject text).HasFile dirs name bytes ↔
      dirs = ["src", "user"] ∧
        (name = "user.model.ts" ∧
          bytes = Text.Utf8.encode "@Entity() class User \x7b id: string \x7d" ∨
        name = "user.service.ts" ∧ bytes = Text.Utf8.encode text) := by
  simp only [serviceProject, Directory.HasFile.directory_iff,
    Directory.HasFile.cons_iff (d := _ :: _), Directory.HasFile.file_iff]
  aesop

/-- Such projects differ in the service file at most. -/
theorem serviceProject_sameBut (text text' : String) :
    (serviceProject text).SameBut "src/user/user.service.ts" (serviceProject text') where
  same_files := by
    intro dirs name
    simp only [hasFile_serviceProject_iff, exists_and_left, exists_or, exists_eq, and_true]
  same_bytes := by
    intro dirs name bytes hpath
    rw [hasFile_serviceProject_iff, hasFile_serviceProject_iff]
    refine and_congr_right fun hdirs => ?_
    have hname : name ≠ "user.service.ts" := by
      intro hname
      rw [hdirs, hname] at hpath
      exact hpath (by decide)
    simp only [hname, false_and]

/-- A run over such a project succeeds. -/
theorem exists_validate_serviceProject [CharacterNames] (text : String) :
    ∃ report, validate (serviceProject text) "" none {} = .ok report := by
  have hpaths : discover (serviceProject text) "" {} =
      .ok ["src/user/user.model.ts", "src/user/user.service.ts"] := by cbv
  exact ⟨_, validate_eq_ok_iff.mpr ⟨rfl, {}, rfl, _, hpaths, rfl⟩⟩

/-- The text of a service file with its class. -/
def serviceText : String := "class UserService \x7b\x7d"

/-- A class in an empty service file changes nothing in the report but the findings in that file. -/
theorem validate_edit_service :
    (projectAt (serviceProject "") "").WellFormed ∧
      (projectAt (serviceProject serviceText) "").WellFormed ∧
      (projectAt (serviceProject "") "").SameBut "src/user/user.service.ts"
        (projectAt (serviceProject serviceText) "") ∧
      ignoreLines (serviceProject "") "" (some ".gitignore") =
        ignoreLines (serviceProject serviceText) "" (some ".gitignore") ∧
      ∃ report report', validate (serviceProject "") "" none {} = .ok report ∧
        validate (serviceProject serviceText) "" none {} = .ok report' ∧
        report.modules = report'.modules ∧ report.checkedFiles = report'.checkedFiles ∧
        report.filter Rules.isPathFinding = report'.filter Rules.isPathFinding ∧
        report.filter (fun g => g.file != "src/user/user.service.ts") =
          report'.filter fun g => g.file != "src/user/user.service.ts" := by
  have hwf : (projectAt (serviceProject "") "").WellFormed := by decide +kernel
  have hwf' : (projectAt (serviceProject serviceText) "").WellFormed := by decide +kernel
  have hsame := serviceProject_sameBut "" serviceText
  have hignore : ignoreLines (serviceProject "") "" (some ".gitignore") =
      ignoreLines (serviceProject serviceText) "" (some ".gitignore") := by decide +kernel
  obtain ⟨report, hrun⟩ := exists_validate_serviceProject ""
  obtain ⟨report', hrun'⟩ := exists_validate_serviceProject serviceText
  obtain ⟨hmodules, hfiles, hpaths, hother, -⟩ :=
    validate_edit (serviceProject "") (serviceProject serviceText) "" "src/user/user.service.ts"
      none {} report report' hwf hwf' hsame hignore hrun hrun'
  exact ⟨hwf, hwf', hsame, hignore, report, report', hrun, hrun', hmodules, hfiles, hpaths,
    hother (by decide +kernel)⟩

end Validation

end ModuleLint
