import ModuleLint.Text.Lines
import ModuleLint.Text.Similarity

/-!
# Options and arguments

The arguments of a command line are options and everything else. An option has a name, and its
value stands behind an equals sign or is the next argument; an option without a value may have
a letter, and letters may stand together behind one dash. After two dashes nothing is an option.
-/

namespace ModuleLint.Command

/-- An option that a command has. -/
structure Switch (α : Type) where
  /-- What the option means. -/
  option : α
  /-- Its name, with two dashes. -/
  name : String
  /-- Its letter, if it has one. -/
  letter : Option Char
  /-- Whether it has a value. An option with a letter has none. -/
  takesValue : Bool

/-- What is wrong with the arguments. -/
inductive ArgumentFault
  /-- There is no such option, but options with similar names. -/
  | noSuchOption (name : String) (similar : List String)
  /-- An option lacks its value. -/
  | valueMissing (name : String)
  /-- An option has a value although it takes none. -/
  | valueUnexpected (name : String)
  deriving DecidableEq, Repr

/-- Options with their values, in order, and all other arguments. -/
structure Arguments (α : Type) where
  /-- The options. -/
  given : List (α × Option String)
  /-- The other arguments. -/
  rest : List String

namespace Arguments

variable {α : Type}

/-- Whether an argument is an option. A single dash is none. -/
def isOption (arg : String) : Bool :=
  arg.startsWith "-" && arg != "-"

/-- Whether an argument is an option by its name. -/
def isLong (arg : String) : Bool :=
  arg.startsWith "--"

/-- An argument cut at its first equals sign. -/
def nameAndValue (arg : String) : String × Option String :=
  match Text.cutAt? ['='] arg.toList with
  | some (name, value) => (String.ofList name, some (String.ofList value))
  | none => (arg, none)

/-- The options that letters stand for. -/
def ofLetters (switches : List (Switch α)) :
    List Char → Except ArgumentFault (List (α × Option String))
  | [] => .ok []
  | c :: cs =>
    match switches.find? fun s => s.letter == some c with
    | some s => (ofLetters switches cs).map ((s.option, none) :: ·)
    | none => .error (.noSuchOption (String.ofList ['-', c]) [])

/-- Adds options before all others. -/
def withGiven (given : List (α × Option String)) (a : Arguments α) : Arguments α :=
  { a with given := given ++ a.given }

/-- Reads arguments. Unless `interspersed`, nothing is an option after the first argument that is
none. -/
def read (switches : List (Switch α)) (interspersed : Bool) :
    List String → Except ArgumentFault (Arguments α)
  | [] => .ok ⟨[], []⟩
  | arg :: args =>
    if arg = "--" then .ok ⟨[], args⟩
    else if isOption arg then
      let (name, value) := nameAndValue arg
      match switches.find? fun s => s.name == name with
      | some s =>
        if s.takesValue then
          match value with
          | some v => (read switches interspersed args).map (withGiven [(s.option, some v)])
          | none =>
            match args with
            | [] => .error (.valueMissing name)
            | v :: args => (read switches interspersed args).map (withGiven [(s.option, some v)])
        else if value.isSome then .error (.valueUnexpected name)
        else (read switches interspersed args).map (withGiven [(s.option, none)])
      | none =>
        if isLong arg then
          .error (.noSuchOption name (Text.similarWords name (switches.map (·.name))))
        else
          match ofLetters switches (arg.toList.drop 1) with
          | .ok given => (read switches interspersed args).map (withGiven given)
          | .error fault => .error fault
    else if interspersed then
      (read switches interspersed args).map fun a => { a with rest := arg :: a.rest }
    else .ok ⟨[], arg :: args⟩

variable [BEq α]

/-- Whether an option is given. -/
def has (a : Arguments α) (option : α) : Bool :=
  a.given.any fun g => g.1 == option

/-- All values of an option, in order. -/
def values (a : Arguments α) (option : α) : List String :=
  (a.given.filter fun g => g.1 == option).filterMap (·.2)

/-- The value of an option, the last one if it is given more than once. -/
def value? (a : Arguments α) (option : α) : Option String :=
  (a.values option).getLast?

/-- The options that are given, in the order in which they come first. -/
def options (a : Arguments α) : List α :=
  (a.given.map (·.1)).eraseDups

end Arguments

end ModuleLint.Command
