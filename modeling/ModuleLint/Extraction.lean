import ModuleLint.Declaration
import ModuleLint.Syntax.Decorator

/-!
# Declarations of a syntax tree

Reads the classes and the calls of methods off a syntax tree. The line of a declaration is the
first line of the declaration itself and of its decorators.
-/

namespace ModuleLint.Extraction

open ModuleLint.Syntax

/-- A text without the two equal quotation marks around it. -/
def unquote (text : String) : String :=
  match text.toList with
  | c :: d :: cs =>
    if (d :: cs).getLast? = some c ∧ (c = '\'' ∨ c = '"' ∨ c = '\x60') then
      String.ofList (d :: cs).dropLast
    else text
  | _ => text

/-- A text, unless it is empty. -/
def nonEmpty? (text : String) : Option String :=
  if text.isEmpty then none else some text

/-- The name that a node gives to a declaration or a property. -/
def nameOf? (n : Node) : Option String :=
  if n.kind = .string then some (unquote n.text) else nonEmpty? n.text

/-- Sets a property, which keeps its place if it is there already. -/
def setProperty (name : String) (a : Argument) :
    List (String × Argument) → List (String × Argument)
  | [] => [(name, a)]
  | p :: ps => if p.1 = name then (name, a) :: ps else p :: setProperty name a ps

mutual

/-- The argument that an expression gives. -/
def argumentOf : Node → Argument
  | ⟨kind, _, _, text, children⟩ =>
    match kind with
    | .string => ⟨.string, some (unquote text), []⟩
    | .identifier => ⟨.identifier, some text, []⟩
    | .arrowFunction =>
      match children.find? fun c => c.slot == some .body with
      | some body => ⟨.thunk, if body.kind = .identifier then some body.text else none, []⟩
      | none => ⟨.thunk, none, []⟩
    | .object => ⟨.object, none, propertiesOf [] children⟩
    | _ => ⟨.other, nonEmpty? text, []⟩

/-- The properties that the children of an object add to those before them. -/
def propertiesOf (before : List (String × Argument)) : List Node → List (String × Argument)
  | [] => before
  | ⟨kind, _, _, _, parts⟩ :: ns =>
    if kind = .pair then
      match (parts.find? fun c => c.slot == some .key).bind nameOf?, pairValue? parts with
      | some name, some a => propertiesOf (setProperty name a before) ns
      | _, _ => propertiesOf before ns
    else propertiesOf before ns

/-- The argument that the value of a pair gives. -/
def pairValue? : List Node → Option Argument
  | [] => none
  | n :: ns => if n.slot = some .value then some (argumentOf n) else pairValue? ns

end

/-- The decorator that a decorator node writes. -/
def decoratorOf (n : Node) : Decorator :=
  ⟨n.decoratorName, n.line, n.decoratorArguments.map argumentOf⟩

/-- The first line of a node and its decorators. -/
def firstLine (n : Node) (decorators : List Decorator) : Int :=
  decorators.foldl (fun line d => min line d.line) n.line

/-- The decorators of a place, as declared. -/
def decoratorsOf (s : Site) : List Decorator :=
  s.decorators.map decoratorOf

/-- The declaration of a parameter. It has a name only if its pattern is one. -/
def parameterOf (s : Site) : Declaration :=
  let decorators := decoratorsOf s
  let name := (s.node.child? .pattern).bind fun p =>
    if p.kind = .identifier then some p.text else none
  ⟨.parameter, name, firstLine s.node decorators, decorators, [], [], none⟩

/-- Whether a node declares a parameter. -/
def isParameter (n : Node) : Bool :=
  n.kind == .requiredParameter || n.kind == .optionalParameter

/-- The sites of the named children of a node. -/
def childSites (n : Node) : List Site :=
  (Site.root n).children.filter fun s => s.node.isNamed

/-- The declarations of a method's parameters. -/
def parametersOf (method : Node) : List Declaration :=
  match method.child? .parameters with
  | none => []
  | some list => ((childSites list).filter fun s => isParameter s.node).map parameterOf

/-- The kind of member that a node declares, if it declares one. -/
def memberKind? (n : Node) : Option DeclarationKind :=
  match n.kind with
  | .methodDefinition => some .method
  | .fieldDefinition => some .property
  | _ => none

/-- The declaration of a member of the given kind. -/
def memberOf (s : Site) (kind : DeclarationKind) : Declaration :=
  let decorators := decoratorsOf s
  let parameters := if kind = .method then parametersOf s.node else []
  ⟨kind, (s.node.child? .name).bind nameOf?, firstLine s.node decorators, decorators, [],
    parameters, none⟩

/-- The declarations of the members in a class body. -/
def membersOf (body : Node) : List Declaration :=
  (childSites body).filterMap fun s => (memberKind? s.node).map (memberOf s)

/-- The text of the class that a class extends. -/
def baseOf? (n : Node) : Option String :=
  let clauses := (n.children.filter fun c => c.kind == .heritage).flatMap Node.namedChildren
  (clauses.find? fun c => c.kind == .extendsClause).map fun clause =>
    match clause.child? .value with
    | some value => value.text
    | none => clause.text

/-- The declaration of a class. -/
def classOf (s : Site) : Declaration :=
  let decorators := decoratorsOf s
  let members := ((s.node.child? .body).map membersOf).getD []
  ⟨.classType, (s.node.child? .name).bind nameOf?, firstLine s.node decorators, decorators,
    members, [], baseOf? s.node⟩

/-- The call of a method that a call node writes, unless it calls something else. -/
def callOf? (n : Node) : Option CallSite :=
  match n.child? .callee with
  | none => none
  | some f =>
    if f.kind = .member then
      match f.child? .property with
      | none => none
      | some p => some ⟨((f.child? .object).map Node.text).getD "", p.text, n.line⟩
    else none

/-- The declarations and calls of a syntax tree. -/
def parsedFileOf (path : String) (tree : Node) : ParsedFile where
  path := path
  classes := (Site.ofKind Kind.isClass tree).map classOf
  calls := (Site.ofKind (· == .call) tree).filterMap fun s => callOf? s.node

end ModuleLint.Extraction
