/-!
# Syntax trees

The tree of a source text, as far as declarations and calls need it. A node knows its kind, the
part it plays in its parent, the row it begins on and its text. Everything that is neither a
declaration nor needed to find one is of the kind `other`.
-/

namespace ModuleLint.Syntax

/-- What a node is. -/
inductive Kind
  | program
  | classDeclaration
  | abstractClass
  | classBody
  | heritage
  | extendsClause
  | methodDefinition
  | fieldDefinition
  | decorator
  | exportStatement
  | call
  | member
  | arguments
  | parameters
  | requiredParameter
  | optionalParameter
  | identifier
  | string
  | arrowFunction
  | object
  | pair
  | comment
  /-- Any other phrase. -/
  | other
  /-- A mark of punctuation. -/
  | token
  deriving DecidableEq, Repr, Inhabited

/-- The part that a node plays in its parent. -/
inductive Slot
  | name
  | body
  | callee
  | arguments
  | object
  | property
  | parameters
  | pattern
  | key
  | value
  deriving DecidableEq, Repr

/-- A class, abstract or not, that is declared with a name. -/
def Kind.isClass : Kind → Bool
  | classDeclaration | abstractClass => true
  | _ => false

/-- A node of a syntax tree. -/
structure Node where
  /-- What the node is. -/
  kind : Kind
  /-- The part it plays in its parent, if it has one of its own. -/
  slot : Option Slot
  /-- The number of line feeds before its first character. -/
  row : Nat
  /-- Its source text. -/
  text : String
  /-- Its children, in source order. -/
  children : List Node
  deriving Inhabited

namespace Node

/-- The line it begins on, counted from one. -/
def line (n : Node) : Int := n.row + 1

/-- Whether the node is more than a mark of punctuation. -/
def isNamed (n : Node) : Bool := n.kind != .token

/-- Whether the node is a comment. -/
def isComment (n : Node) : Bool := n.kind == .comment

/-- Whether the node is a decorator. -/
def isDecorator (n : Node) : Bool := n.kind == .decorator

/-- The child that plays the given part. -/
def child? (n : Node) (slot : Slot) : Option Node :=
  n.children.find? fun c => c.slot == some slot

/-- The children that are more than punctuation. -/
def namedChildren (n : Node) : List Node :=
  n.children.filter isNamed

/-- The children that are more than punctuation and comments. -/
def phrases (n : Node) : List Node :=
  n.namedChildren.filter fun c => !c.isComment

end Node

end ModuleLint.Syntax
