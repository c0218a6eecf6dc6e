import ModuleLint.Command.Usage
import ModuleLint.Tree

/-!
# Invocations

What a command line asks for. Help and version come before everything else that a well-formed
command line asks for; values are looked at in the order in which their options come first.
-/

namespace ModuleLint.Command

/-- An option of the program. -/
inductive ProgramOption
  | version
  | verbose
  | help
  deriving DecidableEq, Repr

/-- An option of the command `validate`. -/
inductive ValidateOption
  | path
  | config
  | disable
  | strict
  | json
  | format
  | help
  deriving DecidableEq, Repr

/-- A format of reports. -/
inductive Format
  /-- Text for people. -/
  | rich
  | json
  /-- One record a line. -/
  | porcelain
  deriving DecidableEq, Repr

namespace Format

/-- All formats. -/
def all : List Format := [rich, json, porcelain]

/-- The name of a format. -/
def name : Format → String
  | rich => "rich"
  | json => "json"
  | porcelain => "porcelain"

/-- The format with a name. -/
def ofName? (name : String) : Option Format :=
  all.find? fun f => f.name == name

end Format

/-- What `validate` is asked for. -/
structure Request where
  /-- The root of the project. -/
  root : String := "."
  /-- The configuration file, if it is named. -/
  config : Option String := none
  /-- Rules that are disabled on top of the configuration. -/
  disabled : List Rule := []
  /-- Whether warnings count as errors. -/
  strict : Bool := false
  /-- The format of the report. -/
  format : Format := .rich
  deriving DecidableEq, Repr

/-- What a command line asks for. -/
inductive Invocation
  | showVersion
  | showHelp (page : Page)
  /-- Nothing. -/
  | nothing
  | validate (verbose : Bool) (request : Request)
  deriving DecidableEq, Repr

/-- The options of the program. -/
def programSwitches : List (Switch ProgramOption) :=
  [⟨.version, "--version", none, false⟩, ⟨.verbose, "--verbose", some 'v', false⟩,
    ⟨.help, "--help", none, false⟩]

/-- The options of the command `validate`. -/
def validateSwitches : List (Switch ValidateOption) :=
  [⟨.path, "--path", none, true⟩, ⟨.config, "--config", none, true⟩,
    ⟨.disable, "--disable", none, true⟩, ⟨.strict, "--strict", none, false⟩,
    ⟨.json, "--json", none, false⟩, ⟨.format, "--format", none, true⟩,
    ⟨.help, "--help", none, false⟩]

/-- The command of the program. -/
def validateCommand : String := "validate"

/-- What a path leads to. The empty path leads nowhere. -/
def entryAt? (tree : Directory) (path : String) : Option Entry :=
  if path.isEmpty then none else tree.find? (Path.segments path)

/-- Refuses a root that is a file. -/
def checkRootValue (tree : Directory) (path : String) : Except UsageFault Unit :=
  match entryAt? tree path with
  | some (.file _) => .error (.badValue "--path" (.directoryIsFile path))
  | _ => .ok ()

/-- Refuses a configuration file that is none. -/
def checkConfigValue (tree : Directory) (path : String) : Except UsageFault Unit :=
  match entryAt? tree path with
  | some (.file _) => .ok ()
  | some (.directory _) => .error (.badValue "--config" (.fileIsDirectory path))
  | none => .error (.badValue "--config" (.noFile path))

/-- Refuses an identifier that no rule has. -/
def checkRuleValue (id : String) : Except UsageFault Unit :=
  if (Rule.ofId? id).isSome then .ok ()
  else .error (.badValue "--disable" (.notAmong id (Rule.all.map Rule.id)))

/-- Refuses a name that no format has. -/
def checkFormatValue (name : String) : Except UsageFault Unit :=
  if (Format.ofName? name).isSome then .ok ()
  else .error (.badValue "--format" (.notAmong name (Format.all.map Format.name)))

/-- Refuses the values of an option if they are of no use. Of several values of an option only
the last counts, unless it is one that can be repeated. -/
def checkOption (tree : Directory) (a : Arguments ValidateOption) :
    ValidateOption → Except UsageFault Unit
  | .path => (a.value? .path).toList.forM (checkRootValue tree)
  | .config => (a.value? .config).toList.forM (checkConfigValue tree)
  | .disable => (a.values .disable).forM checkRuleValue
  | .format => (a.value? .format).toList.forM checkFormatValue
  | _ => .ok ()

/-- The request that options make. -/
def requestOf (a : Arguments ValidateOption) : Request where
  root := (a.value? .path).getD "."
  config := a.value? .config
  disabled := (a.values .disable).filterMap Rule.ofId?
  strict := a.has .strict
  format :=
    if a.has .json then .json else ((a.value? .format).bind Format.ofName?).getD .rich

/-- What the arguments of `validate` ask for. -/
def readValidate (tree : Directory) (verbose : Bool) (args : List String) :
    Except UsageFault Invocation := do
  let a ← (Arguments.read validateSwitches true args).mapError (.arguments .validate)
  if a.has .help then return .showHelp .validate
  a.options.forM (checkOption tree a)
  match a.rest with
  | [] => return .validate verbose (requestOf a)
  | args => throw (.extraArguments args)

/-- What is asked for before any command is looked at. -/
def immediate? (a : Arguments ProgramOption) : Option Invocation :=
  a.given.findSome? fun g =>
    match g.1 with
    | .version => some .showVersion
    | .help => some (.showHelp .program)
    | .verbose => none

/-- The options of the program, and what is left of the arguments. -/
def readProgram (args : List String) : Except UsageFault (Arguments ProgramOption) :=
  (Arguments.read programSwitches false args).mapError (.arguments .program)

/-- What a command line asks for. A command that looks like an option is read as one before it
is refused. -/
def Invocation.read (tree : Directory) (args : List String) : Except UsageFault Invocation := do
  if args.isEmpty then return .nothing
  let a ← readProgram args
  match immediate? a, a.rest with
  | some invocation, _ => return invocation
  | none, [] => throw .missingCommand
  | none, name :: args =>
    if name == validateCommand then readValidate tree (a.has .verbose) args
    else do
      let again ← if Arguments.isOption name then readProgram (name :: args) else pure ⟨[], []⟩
      match immediate? again with
      | some invocation => return invocation
      | none => throw (.noSuchCommand name (Text.similarWords name [validateCommand]))

end ModuleLint.Command
