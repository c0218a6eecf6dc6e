import ModuleLint.Config
import ModuleLint.Evaluation
import ModuleLint.Parsing
import ModuleLint.Report
import ModuleLint.Snippet

/-!
# Validation

A run over a project: its source files are found, sorted into modules and parsed, the enabled
rules look at them, and the findings become a report.
-/

namespace ModuleLint

/-- Why a run cannot be made. -/
inductive ValidationFault
  /-- The root is no directory. -/
  | badRoot (root : String)
  /-- The rules are switched in a way that makes no sense. -/
  | badSwitches (fault : RuleFault)
  /-- An ignore pattern cannot be matched against a path. -/
  | badPattern (fault : Ignore.RegexFault)

/-- The wording of a fault. -/
def ValidationFault.message : ValidationFault → String
  | badRoot root => "Root path does not exist or is not a directory: " ++ Path.normalize root
  | badSwitches fault => "Invalid rule switches: " ++ fault.message
  | badPattern fault => fault.message

/-- Why a file cannot even be looked for. -/
inductive PathFault
  /-- Its path holds the character that no path can hold. -/
  | embeddedNul
  deriving DecidableEq, Repr

/-- The wording of a fault. -/
def PathFault.message : PathFault → String
  | embeddedNul => "embedded null byte"

/-- What is known of a project before the rules look at it. -/
structure Survey where
  /-- All source files. -/
  files : List SourceFile
  /-- The modules they belong to. -/
  groups : List Grouping.Group
  /-- The declarations of the files that belong to modules, where they are known. -/
  parses : List (String × Option ParsedFile)

namespace Survey

/-- The survey of source files at paths, where `parse` tells the declarations of a file. -/
def ofPaths (extensions paths : List String) (parse : String → Option ParsedFile) : Survey :=
  let files := paths.map SourceFile.ofPath
  let groups := Grouping.groups extensions files
  ⟨files, groups, groups.flatMap fun g => g.files.map fun f => (f.path, parse f.path)⟩

/-- The declarations of the file at a path, if they are known. -/
def parsed (s : Survey) (path : String) : Option ParsedFile :=
  (s.parses.lookup path).bind id

/-- The files of all modules. -/
def moduleFiles (s : Survey) : List SourceFile :=
  s.groups.flatMap (·.files)

/-- The fields that the resolvers of all modules compute. -/
def resolverFields (s : Survey) : ResolverIndex :=
  ResolverIndex.collect
    ((s.moduleFiles.filter fun f => f.role == .resolver).filterMap fun f => s.parsed f.path)

/-- A module as the rules see it. -/
def context (s : Survey) (g : Grouping.Group) : Rules.Context :=
  ⟨g.name, g.files, s.parsed, s.resolverFields⟩

/-- The findings of the enabled rules, those on the whole project first. -/
def findings (s : Survey) (rules : RuleSet) : List Finding :=
  Evaluation.evaluateProject s.files rules ++
    s.groups.flatMap fun g => Evaluation.evaluateModule (s.context g) rules

/-- The report on a survey, where `read` gives the text of a file. -/
def report (s : Survey) (rules : RuleSet) (read : String → Option String) : Report :=
  Report.ofFindings (Snippet.attach read (s.findings rules)) s.moduleFiles.length
    (s.groups.map (·.name))

end Survey

namespace Validation

variable [Text.CharacterNames]

/-- Refuses a root that is no directory. -/
def checkRoot (tree : Directory) (root : String) : Except ValidationFault Unit :=
  match tree.find? (Path.segments root) with
  | some (.directory _) => .ok ()
  | _ => .error (.badRoot root)

/-- The rules of a run: those of its switches, or those of the configuration if there are none. -/
def rulesOf (switches : Option (List (Data × Data))) (config : Config) :
    Except ValidationFault RuleSet :=
  match switches with
  | none => .ok config.rules
  | some switches => (RuleSet.ofSwitches switches).mapError .badSwitches

/-- The survey of the project below `root`. -/
def survey (tree : Directory) (root : String) (settings : Discovery.Settings) :
    Except ValidationFault Survey := do
  let paths ← (Discovery.discover tree root settings).mapError .badPattern
  return Survey.ofPaths settings.extensions paths (Parsing.ofFile tree root)

/-- The text of a file below `root`, if it can be read. -/
def readText (tree : Directory) (root path : String) : Option String :=
  (tree.text (Path.join root path)).toOption

/-- The report on the project below `root` under the given rules. -/
def validateUnder (tree : Directory) (root : String) (rules : RuleSet)
    (settings : Discovery.Settings) : Except ValidationFault Report := do
  checkRoot tree root
  let s ← survey tree root settings
  return s.report rules (readText tree root)

/-- Refuses a finding whose text would be looked for at a path that cannot be one. -/
def checkPath (root : String) (f : Finding) : Except PathFault Unit :=
  if Snippet.awaitsText f && Path.holdsNul (Path.join root f.file) then .error .embeddedNul
  else .ok ()

/-- Findings with the snippets about their lines in the files below `root`. -/
def attachSnippets (tree : Directory) (root : String) (findings : List Finding) :
    Except PathFault (List Finding) := do
  findings.forM (checkPath root)
  return Snippet.attach (readText tree root) findings

/-- The report on the project below `root`. -/
def validate (tree : Directory) (root : String) (switches : Option (List (Data × Data)))
    (config : Config) : Except ValidationFault Report := do
  checkRoot tree root
  let rules ← rulesOf switches config
  let s ← survey tree root config.discovery
  return s.report rules (readText tree root)

end Validation

end ModuleLint
