import ModuleLint.Syntax.Node

/-!
# Places in a syntax tree

A site is a node together with its parent and the siblings before it, which is what finding its
decorators takes. The sites of a tree are visited with an explicit stack, a node before its
descendants and siblings from left to right.
-/

namespace ModuleLint.Syntax

/-- A node in its place. -/
structure Site where
  /-- The node. -/
  node : Node
  /-- Its parent, if it is not the root. -/
  parent : Option Node
  /-- The siblings before it, the nearest first. -/
  before : List Node

mutual

/-- The number of nodes of a tree. -/
def Node.size : Node → Nat
  | .mk _ _ _ _ children => 1 + sizes children

/-- The number of nodes of a list of trees. -/
def sizes : List Node → Nat
  | [] => 0
  | n :: ns => n.size + sizes ns

end

namespace Site

/-- The site of the root of a tree. -/
def root (n : Node) : Site := ⟨n, none, []⟩

/-- The sites of siblings that follow the siblings `before`. -/
def ofSiblings (parent : Node) (before : List Node) : List Node → List Site
  | [] => []
  | n :: ns => ⟨n, some parent, before⟩ :: ofSiblings parent (n :: before) ns

/-- The sites of the children of a node, in source order. -/
def children (s : Site) : List Site :=
  ofSiblings s.node [] s.node.children

/-- The number of nodes below the sites of a stack, those of the sites included. -/
def stackSize : List Site → Nat
  | [] => 0
  | s :: ss => s.node.size + stackSize ss

/-- Stacks put on one another have their nodes together. -/
theorem stackSize_append (ss ts : List Site) :
    stackSize (ss ++ ts) = stackSize ss + stackSize ts := by
  induction ss with
  | nil => simp [stackSize]
  | cons s ss ih => simp [stackSize, ih, Nat.add_assoc]

/-- Siblings have the nodes of their trees. -/
theorem stackSize_ofSiblings (parent : Node) (before ns : List Node) :
    stackSize (ofSiblings parent before ns) = sizes ns := by
  induction ns generalizing before with
  | nil => rfl
  | cons n ns ih => simp [ofSiblings, stackSize, sizes, ih]

/-- The children of a site have all its nodes but one. -/
theorem stackSize_children (s : Site) : stackSize s.children + 1 = s.node.size := by
  obtain ⟨node, parent, before⟩ := s
  cases node with
  | mk kind slot row text children =>
    simp [Site.children, stackSize_ofSiblings, Node.size, Nat.add_comm]

/-- Visits the sites on a stack; `visited` holds the sites met so far, last first. -/
def visitFrom (visited : List Site) : List Site → List Site
  | [] => visited.reverse
  | s :: stack => visitFrom (s :: visited) (s.children ++ stack)
termination_by stack => stackSize stack
decreasing_by
  have := stackSize_children s
  simp only [stackSize, stackSize_append]
  omega

/-- All sites of a tree, in the order of the visit. -/
def visit (n : Node) : List Site :=
  visitFrom [] [root n]

/-- The sites of a tree whose nodes are of a wanted kind. -/
def ofKind (wanted : Kind → Bool) (n : Node) : List Site :=
  (visit n).filter fun s => wanted s.node.kind

end Site

end ModuleLint.Syntax
