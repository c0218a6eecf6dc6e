import ModuleLint.Command.Invocation
import ModuleLint.Log
import ModuleLint.Report.Record
import ModuleLint.Report.Terminal

/-!
# Runs of the program

What the program writes and how it exits. It exits with zero if a run passes, with one if it
does not, and with two if there is no run.
-/

namespace ModuleLint.Command

/-- What the program writes, and how it exits. -/
structure Output where
  /-- The exit status. -/
  status : Nat
  /-- What it writes to standard output. -/
  out : String := ""
  /-- What it writes to standard error. -/
  err : String := ""
  deriving DecidableEq, Repr

/-- What makes the program fail without a word of its own. -/
inductive Failure
  /-- The configuration file holds a value that cannot be worded. -/
  | config (fault : ConfigFileFault)
  /-- An ignore pattern cannot be matched. -/
  | pattern (fault : Ignore.RegexFault)

/-- A report in a format, with a line feed at its end unless it is empty. Colour is for
terminals. -/
def reportText (r : Report) (strict colour : Bool) (format : Format) : String :=
  let text := match format with
    | .rich => r.forTerminal strict colour
    | .json => r.asJson
    | .porcelain => r.asRecords
  if text.isEmpty then text else text ++ "\n"

/-- The exit status after a report. -/
def exitStatus (r : Report) (strict : Bool) : Nat :=
  if r.passes strict then 0 else 1

/-- The output of a run that cannot be made, after the events of a log. -/
def refusal (log : List LogEvent) (message : String) : Output :=
  ⟨2, "", Log.text log ++ "Error: " ++ message ++ "\n"⟩

/-- The configuration of a run, with further rules disabled. -/
def configOf (tree : Directory) (request : Request) : Except ConfigFileFault Config := do
  let config ← Config.resolve tree request.root request.config
  return { config with rules := request.disabled.foldl RuleSet.disable config.rules }

variable [Text.CharacterNames]

/-- Validates a project under a configuration, after the events of a log. -/
def validateWith (tree : Directory) (colour verbose : Bool) (request : Request) (config : Config)
    (log : List LogEvent) : Except Failure Output := do
  let surveyed : Except ValidationFault Survey := do
    Validation.checkRoot tree request.root
    Validation.survey tree request.root config.discovery
  match surveyed with
  | .error (.badPattern fault) => throw (.pattern fault)
  | .error fault => return refusal log fault.message
  | .ok s =>
    let report := s.report config.rules (Validation.readText tree request.root)
    let events := if verbose then log ++ Log.ofRun tree request.root config s report else []
    return ⟨exitStatus report request.strict,
      reportText report request.strict colour request.format, Log.text events⟩

/-- Validates a project. -/
def validate (tree : Directory) (colour verbose : Bool) (request : Request) :
    Except Failure Output :=
  match configOf tree request with
  | .error fault =>
    match fault.message? with
    | some message => .ok (refusal [] message)
    | none => .error (.config fault)
  | .ok config =>
    let log := match Config.path? tree request.root request.config with
      | some path => if verbose then [LogEvent.configLoaded path] else []
      | none => []
    validateWith tree colour verbose request config log

/-- Runs the program on a command line in a directory. -/
def run (tree : Directory) (colour : Bool) (args : List String) : Except Failure Output :=
  match Invocation.read tree args with
  | .error fault => .ok ⟨2, "", fault.text⟩
  | .ok .showVersion => .ok ⟨0, version, ""⟩
  | .ok (.showHelp page) => .ok ⟨0, page.help, ""⟩
  | .ok .nothing => .ok ⟨2, "", Page.program.help⟩
  | .ok (.validate verbose request) => validate tree colour verbose request

end ModuleLint.Command
