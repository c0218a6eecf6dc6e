/-!
# Declarations

What the rules read from a source file: its classes with their members, parameters and
decorators, and the calls of methods in it.
-/

namespace ModuleLint

/-- The form of a decorator argument. -/
inductive ArgumentKind
  /-- A string literal. -/
  | string
  /-- A name. -/
  | identifier
  /-- An arrow function. -/
  | thunk
  /-- An object literal. -/
  | object
  /-- Any other expression. -/
  | other
  deriving DecidableEq, Repr, Inhabited

/-- A decorator argument. -/
structure Argument where
  /-- The form of the argument. -/
  kind : ArgumentKind
  /-- The text of a string, the name, the name that a thunk returns, or the source text. -/
  value : Option String
  /-- The properties that an object lists by name. -/
  properties : List (String × Argument)
  deriving Inhabited, Repr

namespace Argument

/-- The text of a string argument. -/
def stringValue? (a : Argument) : Option String :=
  if a.kind = .string then a.value else none

/-- The property of an object with the given name. -/
def property? (a : Argument) (name : String) : Option Argument :=
  (a.properties.find? fun p => p.1 == name).map (·.2)

end Argument

/-- A decorator. -/
structure Decorator where
  /-- The decorator's name, or the empty text if it is no plain name. -/
  name : String
  /-- The line it begins on. -/
  line : Int
  /-- What it is called with. -/
  arguments : List Argument
  deriving Inhabited, Repr

/-- The text of the argument at an index, if it is a string. -/
def Decorator.stringArgument? (d : Decorator) (index : Nat) : Option String :=
  d.arguments[index]?.bind Argument.stringValue?

/-- What is declared. -/
inductive DeclarationKind
  | classType
  | method
  | property
  | parameter
  deriving DecidableEq, Repr, Inhabited

/-- A class, method, property or parameter. -/
structure Declaration where
  /-- What is declared. -/
  kind : DeclarationKind
  /-- The declared name, if it is a plain one. -/
  name : Option String
  /-- The first line of the declaration and its decorators. -/
  line : Int
  /-- The decorators, in source order. -/
  decorators : List Decorator
  /-- The members of a class. -/
  members : List Declaration
  /-- The parameters of a method. -/
  parameters : List Declaration
  /-- The class that a class extends. -/
  base : Option String
  deriving Inhabited, Repr

namespace Declaration

/-- The name, or the empty text. -/
def nameOrEmpty (d : Declaration) : String := d.name.getD ""

/-- The name, or `unknown` if there is none or it is empty. -/
def shownName (d : Declaration) : String :=
  if d.nameOrEmpty.isEmpty then "unknown" else d.nameOrEmpty

/-- Whether a decorator has one of the names. -/
def hasDecorator (d : Declaration) (names : List String) : Bool :=
  d.decorators.any fun dec => names.contains dec.name

/-- The first decorator with the given name. -/
def findDecorator? (d : Declaration) (name : String) : Option Decorator :=
  d.decorators.find? fun dec => dec.name == name

/-- The members that are methods. -/
def methods (d : Declaration) : List Declaration :=
  d.members.filter fun m => m.kind == .method

/-- The members that are properties. -/
def properties (d : Declaration) : List Declaration :=
  d.members.filter fun m => m.kind == .property

end Declaration

/-- The call of a method, such as `this.events.emit(...)`. -/
structure CallSite where
  /-- The source text of the object. -/
  receiver : String
  /-- The name of the method. -/
  method : String
  /-- The line the call begins on. -/
  line : Int
  deriving DecidableEq, Inhabited, Repr

/-- Everything that the rules read from a source file. -/
structure ParsedFile where
  /-- Path of the file. -/
  path : String
  /-- Its classes, a class before those nested in it. -/
  classes : List Declaration
  /-- The calls of methods in it. -/
  calls : List CallSite
  deriving Inhabited, Repr

/-- The methods of all classes of a file. -/
def ParsedFile.methods (file : ParsedFile) : List Declaration :=
  file.classes.flatMap Declaration.methods

end ModuleLint
