import ModuleLint.Command.Arguments
import ModuleLint.Rule
import ModuleLint.Text.Quoted

/-!
# Usage

What the program says about how it is used: its help, and what is wrong with a command line.
-/

namespace ModuleLint.Command

/-- The program or one of its commands. -/
inductive Page
  | program
  | validate
  deriving DecidableEq, Repr

namespace Page

/-- How it is called. -/
def path : Page → String
  | program => "structlint"
  | validate => "structlint validate"

/-- The pattern of its command line. -/
def pattern : Page → String
  | program => "structlint [OPTIONS] COMMAND [ARGS]..."
  | validate => "structlint validate [OPTIONS]"

/-- Its help, line by line. -/
def helpLines : Page → List String
  | program =>
    ["Usage: " ++ program.pattern,
      "",
      "  structlint - structural validator for NestJS/GraphQL projects.",
      "",
      "Options:",
      "  --version      Show the version and exit.",
      "  -v, --verbose  Verbose output.",
      "  --help         Show this message and exit.",
      "",
      "Commands:",
      "  validate  Validate project structure against NestJS/GraphQL conventions."]
  | validate =>
    ["Usage: " ++ validate.pattern,
      "",
      "  Validate project structure against NestJS/GraphQL conventions.",
      "",
      "  Exit codes: 0 = clean, or warnings only without --strict; 1 = errors, or",
      "  warnings with --strict; 2 = configuration error.",
      "",
      "Options:",
      "  --path DIRECTORY                Project root (default: current directory).",
      "  --config FILE                   Configuration file (default:",
      "                                  <root>/.structlint.yml if present).",
      "  --disable [" ++ "|".intercalate (Rule.all.map Rule.id) ++ "]",
      "                                  Disable a rule by id (repeatable).",
      "  --strict                        Treat warnings as errors.",
      "  --json                          Output as JSON.",
      "  --format [rich|json|porcelain]  Output format (default: rich).",
      "  --help                          Show this message and exit."]

/-- Its help. -/
def help (page : Page) : String :=
  String.join (page.helpLines.map (· ++ "\n"))

end Page

/-- The version of the program. -/
def version : String := "structlint, version 0.3.0\n"

/-- What is wrong with the value of an option. -/
inductive ValueFault
  /-- The value is not one of those there are. -/
  | notAmong (value : String) (choices : List String)
  /-- There is no such file. -/
  | noFile (path : String)
  /-- The file is a directory. -/
  | fileIsDirectory (path : String)
  /-- The directory is a file. -/
  | directoryIsFile (path : String)
  deriving DecidableEq, Repr

/-- Texts in quotes, with a comma between each two. -/
def quotedList (texts : List String) : String :=
  ", ".intercalate (texts.map Text.quoted)

/-- The wording of a fault of a value. -/
def ValueFault.message : ValueFault → String
  | notAmong value choices => Text.quoted value ++ " is not one of " ++ quotedList choices ++ "."
  | noFile path => "File " ++ Text.quoted path ++ " does not exist."
  | fileIsDirectory path => "File " ++ Text.quoted path ++ " is a directory."
  | directoryIsFile path => "Directory " ++ Text.quoted path ++ " is a file."

/-- What is wrong with a command line. -/
inductive UsageFault
  /-- Options of the program or a command are not given as they should. -/
  | arguments (page : Page) (fault : ArgumentFault)
  /-- The value of an option is of no use. -/
  | badValue (option : String) (fault : ValueFault)
  /-- There are arguments where none are needed. -/
  | extraArguments (args : List String)
  /-- No command is given. -/
  | missingCommand
  /-- There is no such command, but one with a similar name. -/
  | noSuchCommand (name : String) (similar : List String)
  deriving DecidableEq, Repr

namespace UsageFault

/-- A hint at similar names. -/
def hint : List String → String
  | [] => ""
  | [name] => " Did you mean " ++ Text.quoted name ++ "?"
  | names => " (Possible options: " ++ quotedList (names.mergeSort fun a b => a ≤ b) ++ ")"

/-- The wording of a fault. -/
def message : UsageFault → String
  | arguments _ (.noSuchOption name similar) =>
    "No such option " ++ Text.quoted name ++ "." ++ hint similar
  | arguments _ (.valueMissing name) =>
    "Option " ++ Text.quoted name ++ " requires an argument."
  | arguments _ (.valueUnexpected name) =>
    "Option " ++ Text.quoted name ++ " does not take a value."
  | badValue option fault => "Invalid value for '" ++ option ++ "': " ++ fault.message
  | extraArguments [arg] => "Got unexpected extra argument (" ++ arg ++ ")"
  | extraArguments args =>
    "Got unexpected extra arguments (" ++ " ".intercalate args ++ ")"
  | missingCommand => "Missing command."
  | noSuchCommand name similar =>
    "No such command " ++ Text.quoted name ++ "." ++ hint similar

/-- The page whose usage is shown with a fault, if one is. -/
def page? : UsageFault → Option Page
  | arguments page (.noSuchOption _ _) => some page
  | arguments _ _ => none
  | badValue _ _ => some .validate
  | extraArguments _ => some .validate
  | missingCommand => some .program
  | noSuchCommand _ _ => some .program

/-- What the program writes about a fault. -/
def text (fault : UsageFault) : String :=
  let usage := match fault.page? with
    | some page =>
      "Usage: " ++ page.pattern ++ "\nTry '" ++ page.path ++ " --help' for help.\n\n"
    | none => ""
  usage ++ "Error: " ++ fault.message ++ "\n"

end UsageFault

end ModuleLint.Command
