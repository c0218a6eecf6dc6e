import ModuleLint.Config.File
import ModuleLint.Validation

/-!
# The log of a run

What a run has done, for those who want to know.
-/

namespace ModuleLint

/-- Something that happens during a run. -/
inductive LogEvent
  /-- A configuration file has been read. -/
  | configLoaded (path : String)
  /-- The ignore file is there but cannot be read. -/
  | unreadableIgnoreFile (path : String)
  /-- Source files have been found. -/
  | discovered (count : Nat) (root : String)
  /-- A source file cannot be read. -/
  | unreadable (path : String)
  /-- Rules are about to run. -/
  | enabled (rules : List Rule)
  /-- A rule has found something in a module. -/
  | produced (module_ : String) (rule : Rule) (count : Nat)
  /-- The run is done. -/
  | validated (report : Report)

namespace LogEvent

/-- The part of the program that an event belongs to. -/
def source : LogEvent → String
  | configLoaded _ => "structlint.config"
  | unreadableIgnoreFile _ | discovered _ _ => "structlint.source.discovery"
  | unreadable _ => "structlint.source.declarations"
  | produced _ _ _ => "structlint.rules.engine"
  | enabled _ | validated _ => "structlint.validator"

/-- The wording of an event. -/
def message : LogEvent → String
  | configLoaded path => "Loaded configuration from " ++ path
  | unreadableIgnoreFile path => "Cannot read ignore file: " ++ path
  | discovered count root =>
    "Discovered " ++ toString count ++ " source files under " ++ root
  | unreadable path => "Cannot read file: " ++ path
  | enabled rules =>
    "Enabled rules (" ++ toString rules.length ++ "/" ++ toString Rule.all.length ++ "): " ++
      commaJoined (rules.map Rule.id)
  | produced module_ rule count =>
    "Module " ++ module_ ++ ": " ++ rule.id ++ " produced " ++ toString count ++ " finding(s)"
  | validated r =>
    "Validated " ++ toString r.checkedFiles ++ " files in " ++ toString r.modules.length ++
      " modules: " ++ toString r.errors.length ++ " errors, " ++ toString r.warnings.length ++
      " warnings"

/-- An event as a line of the log. -/
def line (e : LogEvent) : String :=
  "DEBUG " ++ e.source ++ ": " ++ e.message ++ "\n"

end LogEvent

namespace Log

/-- Whether an ignore file that is there cannot be read. -/
def ofIgnoreFile (tree : Directory) (root : String) (settings : Discovery.Settings) :
    List LogEvent :=
  match settings.ignoreFile with
  | none => []
  | some "" => []
  | some name =>
    let segments := Path.join root name
    match tree.text segments with
    | .ok _ => []
    | .error .missing => []
    | .error _ => [.unreadableIgnoreFile (Path.render segments)]

/-- The files of modules that cannot be read. -/
def ofFiles (tree : Directory) (root : String) (s : Survey) : List LogEvent :=
  s.moduleFiles.filterMap fun f =>
    let segments := Path.join root f.path
    match tree.text segments with
    | .ok _ => none
    | .error _ => some (.unreadable (Path.render segments))

/-- What the rules have found in a module. -/
def ofModule (s : Survey) (rules : RuleSet) (g : Grouping.Group) : List LogEvent :=
  (Evaluation.enabled rules Evaluation.moduleRules).filterMap fun c =>
    let count := (c.2 (s.context g)).length
    if count = 0 then none else some (.produced g.name c.1 count)

/-- What happens during a run on a survey. -/
def ofRun (tree : Directory) (root : String) (config : Config) (s : Survey) (report : Report) :
    List LogEvent :=
  ofIgnoreFile tree root config.discovery ++
    [.discovered s.files.length (Path.normalize root)] ++ ofFiles tree root s ++
    [.enabled config.rules.enabledRules] ++ s.groups.flatMap (ofModule s config.rules) ++
    [.validated report]

/-- The events as the text of a log. -/
def text (events : List LogEvent) : String :=
  String.join (events.map LogEvent.line)

end Log

end ModuleLint
