import ModuleLint.Syntax.Site

/-!
# Decorators of a node

A decorator stands in one of three places: it is a child of what it decorates, it comes before
a member in a class body, or it is a child of the export statement around a class. Comments
never come between a decorator and its target.
-/

namespace ModuleLint.Syntax

/-- The decorators among a node's children. -/
def Node.ownDecorators (n : Node) : List Node :=
  n.children.filter Node.isDecorator

/-- The decorators directly before a place, given the siblings before it, the nearest first. -/
def decoratorsBefore (before : List Node) : List Node :=
  ((before.takeWhile fun n => n.isDecorator || n.isComment).filter Node.isDecorator).reverse

/-- The decorators of a node that stand outside it. -/
def Site.outerDecorators (s : Site) : List Node :=
  match s.parent with
  | none => []
  | some parent =>
    if parent.kind = .exportStatement ∧ s.node.kind.isClass then parent.ownDecorators
    else if parent.kind = .classBody then decoratorsBefore s.before
    else []

/-- The decorators of a node, in source order. -/
def Site.decorators (s : Site) : List Node :=
  s.outerDecorators ++ s.node.ownDecorators

namespace Node

/-- The expression after the `@` of a decorator. -/
def decoratorExpression? (decorator : Node) : Option Node :=
  decorator.phrases.head?

/-- The name of a decorator that is a name or the call of a name, and the empty text for any
other. -/
def decoratorName (decorator : Node) : String :=
  match decorator.decoratorExpression? with
  | none => ""
  | some e =>
    if e.kind = .identifier then e.text
    else if e.kind = .call then
      match e.child? .callee with
      | some f => if f.kind = .identifier then f.text else ""
      | none => ""
    else ""

/-- The arguments of a decorator that is a call. -/
def decoratorArguments (decorator : Node) : List Node :=
  match decorator.decoratorExpression? with
  | none => []
  | some e =>
    if e.kind = .call then ((e.child? .arguments).map phrases).getD [] else []

end Node

end ModuleLint.Syntax
