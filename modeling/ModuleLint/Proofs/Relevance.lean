import Mathlib
import ModuleLint.Proofs.Survey

/-!
# What a run depends on

A run reads the bytes of the discovered files that belong to a module, for their declarations and
once more for the lines around findings, and it reads nothing else of a project whose paths are
discovered. So two projects with the same discovered paths and the same bytes in these files get the
same report, whatever else is in them.
-/

namespace ModuleLint

open ModuleLint.Text (CharacterNames)

/-- The paths among discovered ones whose files a run reads: those that belong to a module. -/
def Survey.relevant (extensions paths : List String) : List String :=
  paths.filter fun path => (Grouping.moduleOf? extensions path).isSome

/-- The text of a file is that of its bytes. -/
theorem Directory.text_congr {tree tree' : Directory} {segments segments' : List String}
    (h : tree.bytes segments = tree'.bytes segments') :
    tree.text segments = tree'.text segments' := by
  rw [text, text, h]

/-- The declarations of a file are those of its bytes. -/
theorem Parsing.ofFile_congr {tree tree' : Directory} {root root' path : String}
    (h : tree.bytes (Path.join root path) = tree'.bytes (Path.join root' path)) :
    ofFile tree root path = ofFile tree' root' path := by
  rw [ofFile, ofFile, Directory.text_congr h]

/-- What can be read of a file is what its bytes tell. -/
theorem Validation.readText_congr {tree tree' : Directory} {root root' path : String}
    (h : tree.bytes (Path.join root path) = tree'.bytes (Path.join root' path)) :
    readText tree root path = readText tree' root' path := by
  rw [readText, readText, Directory.text_congr h]

namespace Survey

variable {extensions paths : List String} {parse parse' : String → Option ParsedFile}

/-- The files of the modules in a survey stand at the relevant ones of its paths. -/
theorem path_mem_relevant {f : SourceFile}
    (hf : f ∈ (ofPaths extensions paths parse).moduleFiles) :
    f.path ∈ relevant extensions paths := by
  obtain ⟨⟨path, hpath, rfl⟩, hgrouped⟩ := mem_moduleFiles_ofPaths.mp hf
  exact List.mem_filter.mpr ⟨hpath, hgrouped⟩

/-- A finding with a line is about a file at a relevant path. -/
theorem file_mem_relevant {rules : RuleSet} {g : Finding}
    (hg : g ∈ (ofPaths extensions paths parse).findings rules) (hline : g.line.isSome = true) :
    g.file ∈ relevant extensions paths := by
  obtain ⟨f, hf, hfile⟩ := exists_file_eq hg hline
  rw [hfile]
  exact path_mem_relevant hf

/-- A survey of paths depends on the declarations at the relevant ones alone. -/
theorem ofPaths_congr (hparse : ∀ path ∈ relevant extensions paths, parse path = parse' path) :
    ofPaths extensions paths parse = ofPaths extensions paths parse' := by
  -- files and modules are told by the paths, so only the declarations can differ
  have hparses : (ofPaths extensions paths parse).parses =
      (ofPaths extensions paths parse').parses := by
    refine List.flatMap_congr fun g hg => List.map_congr_left fun f hf => ?_
    have hmem : f ∈ (ofPaths extensions paths parse).moduleFiles :=
      List.mem_flatMap.mpr ⟨g, hg, hf⟩
    rw [hparse f.path (path_mem_relevant hmem)]
  exact congrArg (Survey.mk _ _) hparses

/-- The report on a survey of paths depends on the texts at the relevant ones alone. -/
theorem report_congr {read read' : String → Option String} (rules : RuleSet)
    (hread : ∀ path ∈ relevant extensions paths, read path = read' path) :
    (ofPaths extensions paths parse).report rules read =
      (ofPaths extensions paths parse).report rules read' := by
  have hattach : Snippet.attach read ((ofPaths extensions paths parse).findings rules) =
      Snippet.attach read' ((ofPaths extensions paths parse).findings rules) := by
    rw [Snippet.attach_eq_map, Snippet.attach_eq_map]
    exact List.map_congr_left fun _ hg =>
      Snippet.attachTo_congr fun hline => hread _ (file_mem_relevant hg hline)
  rw [report, report, hattach]

end Survey

namespace Validation

/-- Only the discovered files that belong to a module matter. Two projects with the same discovered
paths and the same bytes in these files get the same report, and they do get one unless the switches
make no sense. -/
theorem validate_eq_of_relevant [CharacterNames] (switches : Option (List (Data × Data)))
    (config : Config) {tree tree' : Directory} {root root' : String} {paths : List String}
    (hroot : checkRoot tree root = .ok ()) (hroot' : checkRoot tree' root' = .ok ())
    (hpaths : Discovery.discover tree root config.discovery = .ok paths)
    (hpaths' : Discovery.discover tree' root' config.discovery = .ok paths)
    (hbytes : ∀ path ∈ Survey.relevant config.discovery.extensions paths,
      tree.bytes (Path.join root path) = tree'.bytes (Path.join root' path)) :
    validate tree root switches config = validate tree' root' switches config ∧
      ∀ rules, rulesOf switches config = .ok rules →
        ∃ report, validate tree root switches config = .ok report := by
  have hsurvey : Survey.ofPaths config.discovery.extensions paths (Parsing.ofFile tree root) =
      Survey.ofPaths config.discovery.extensions paths (Parsing.ofFile tree' root') :=
    Survey.ofPaths_congr fun path hpath => Parsing.ofFile_congr (hbytes path hpath)
  constructor
  · rw [validate, validate, hroot, hroot', survey_eq_ok hpaths, survey_eq_ok hpaths', hsurvey]
    refine bind_congr fun _ => bind_congr fun rules => congrArg Except.ok ?_
    exact Survey.report_congr rules fun path hpath => readText_congr (hbytes path hpath)
  · intro rules hrules
    exact ⟨_, validate_eq_ok_iff.mpr ⟨hroot, rules, hrules, paths, hpaths, rfl⟩⟩

/-- A project with a persisted class in a module, a resolver file outside all modules, and further
entries. -/
def looseProject (text : String) (further : Directory) : Directory :=
  further ++ [("User.resolver.ts", .file (Text.Utf8.encode text)),
    ("src", .directory [("user", .directory
      [("user.model.ts", .file (Text.Utf8.encode "@Entity() class User \x7b id: string \x7d"))])])]

/-- The text of a resolver that computes the field of that class. -/
def looseText : String :=
  "@Resolver(() => User) class UserResolver \x7b @ResolveField() id() \x7b\x7d \x7d"

/-- Directories of dependencies and of build results. -/
def clutter : Directory :=
  [("dist", .directory [("user.module.ts", .file [])]),
    ("node_modules", .directory [("a.service.ts", .file [])])]

/-- The report on such a project is the same with that text, which would cover the property in a
module, and with that clutter. -/
theorem validate_eq_of_relevant_loose :
    ∃ report, validate (looseProject "" []) "" none {} = .ok report ∧
      validate (looseProject looseText clutter) "" none {} = .ok report ∧
      report.warnings.map (·.rule) = ["missing-column-decorator", "missing-module"] := by
  have hpaths : Discovery.discover (looseProject "" []) "" {} =
      .ok ["User.resolver.ts", "src/user/user.model.ts"] := by cbv
  have hpaths' : Discovery.discover (looseProject looseText clutter) "" {} =
      .ok ["User.resolver.ts", "src/user/user.model.ts"] := by cbv
  have hbytes : ∀ path ∈ Survey.relevant [".ts"] ["User.resolver.ts", "src/user/user.model.ts"],
      (looseProject "" []).bytes (Path.join "" path) =
        (looseProject looseText clutter).bytes (Path.join "" path) := by
    have hrelevant : Survey.relevant [".ts"] ["User.resolver.ts", "src/user/user.model.ts"] =
        ["src/user/user.model.ts"] := by decide +kernel
    rw [hrelevant, List.forall_mem_singleton]
    rfl
  have hrun := validate_default_eq_ok rfl hpaths
  have heq := (validate_eq_of_relevant none {} rfl rfl hpaths hpaths' hbytes).1
  exact ⟨_, hrun, heq ▸ hrun, by decide +kernel⟩

end Validation

end ModuleLint
