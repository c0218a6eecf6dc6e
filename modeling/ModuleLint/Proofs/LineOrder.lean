import Mathlib.Order.Bounds.Defs
import ModuleLint.Proofs.Declarations
import ModuleLint.Proofs.Extracted

/-!
# Lines of nested declarations

In a source text no node starts above its parent or above anything to its left. The declarations
that are read off such a tree nest by their lines: the line of each is the least of its own first
line and those of its decorators, which is at most the line of whatever is declared inside it. The
calls of a file ascend by their lines.
-/

namespace ModuleLint

namespace Syntax

/-- A node starts where the rows of a text up to `lastRow` let it: no later than on the last of
them, no earlier than its parent, and no earlier than anything in the siblings before it. -/
structure Site.StartsInOrder (lastRow : Nat) (s : Site) : Prop where
  row_le : s.node.row ≤ lastRow
  parent_le : ∀ parent ∈ s.parent, parent.row ≤ s.node.row
  before_le : ∀ n ∈ s.before, ∀ x ∈ n.places, x.node.row ≤ s.node.row

instance (lastRow : Nat) (s : Site) : Decidable (s.StartsInOrder lastRow) :=
  decidable_of_iff
    (s.node.row ≤ lastRow ∧ (∀ parent ∈ s.parent, parent.row ≤ s.node.row) ∧
      ∀ n ∈ s.before, ∀ x ∈ n.places, x.node.row ≤ s.node.row)
    ⟨fun h => ⟨h.1, h.2.1, h.2.2⟩, fun h => ⟨h.row_le, h.parent_le, h.before_le⟩⟩

/-- All nodes of a tree start in the order of a source text, which ends on the given row. -/
def Node.StartsInOrder (tree : Node) (lastRow : Nat) : Prop :=
  ∀ x ∈ tree.places, x.toSite.StartsInOrder lastRow

instance (tree : Node) (lastRow : Nat) : Decidable (tree.StartsInOrder lastRow) :=
  inferInstanceAs (Decidable (∀ x ∈ tree.places, x.toSite.StartsInOrder lastRow))

/-- What belongs to a part of a tree belongs to the tree. -/
theorem Node.Within.trans {root n m : Node} (h : root.Within n) (hm : n.Within m) :
    root.Within m := by
  induction hm with
  | refl => exact h
  | child _ hchild ih => exact ih.child hchild

/-- The nodes at and below a place are those of its tree. -/
theorem Place.within_iff {x : Place} {n : Node} :
    x.node.Within n ↔ ∃ y ∈ x.below, y.node = n := by
  constructor
  · intro h
    induction h with
    | refl => exact ⟨x, x.mem_below, rfl⟩
    | child _ hchild ih =>
      obtain ⟨y, hy, rfl⟩ := ih
      rw [← y.map_node_children] at hchild
      obtain ⟨c, hc, rfl⟩ := List.mem_map.mp hchild
      exact ⟨c, Place.mem_below_of_mem_children hy hc, rfl⟩
  · rintro ⟨y, hy, rfl⟩
    induction x using Place.induction with
    | step x ih =>
      rw [Place.below_eq, List.mem_cons, List.mem_flatMap] at hy
      obtain rfl | ⟨c, hc, hy⟩ := hy
      · exact .refl
      · have hchild : c.node ∈ x.node.children := x.map_node_children ▸ List.mem_map_of_mem hc
        exact (Node.Within.child .refl hchild).trans (ih c hc hy)

namespace Node.StartsInOrder

variable {lastRow : Nat} {tree : Node}

/-- No node below a place starts above it. -/
theorem row_le_of_mem_below (h : tree.StartsInOrder lastRow) {x y : Place}
    (hx : x ∈ tree.places) (hy : y ∈ x.below) : x.node.row ≤ y.node.row := by
  induction x using Place.induction with
  | step x ih =>
    rw [Place.below_eq, List.mem_cons, List.mem_flatMap] at hy
    obtain rfl | ⟨c, hc, hy⟩ := hy
    · exact Nat.le_refl _
    · have hplace := Place.mem_below_of_mem_children hx hc
      have hrow := (h c hplace).parent_le x.node (Place.parent_of_mem_children hc)
      exact Nat.le_trans hrow (ih c hc hplace hy)

/-- No node of a tree starts above one that it belongs to. -/
theorem row_le_of_within (h : tree.StartsInOrder lastRow) {n m : Node} (hn : tree.Within n)
    (hm : n.Within m) : n.row ≤ m.row := by
  obtain ⟨x, hx, rfl⟩ := Place.within_iff (x := ⟨.root tree, []⟩).mp hn
  obtain ⟨y, hy, rfl⟩ := Place.within_iff.mp hm
  exact h.row_le_of_mem_below hx hy

/-- No node of a tree starts below the last row. -/
theorem row_le_of_within_tree (h : tree.StartsInOrder lastRow) {n : Node} (hn : tree.Within n) :
    n.row ≤ lastRow := by
  obtain ⟨x, hx, rfl⟩ := Place.within_iff (x := ⟨.root tree, []⟩).mp hn
  exact (h x hx).row_le

/-- No node at or below a place starts above one that comes before it. -/
theorem pairwise_row_le_below (h : tree.StartsInOrder lastRow) {x : Place}
    (hx : x ∈ tree.places) : x.below.Pairwise fun y z => y.node.row ≤ z.node.row := by
  induction x using Place.induction with
  | step x ih =>
    have hplace {c : Place} (hc : c ∈ x.children) : c ∈ tree.places :=
      Place.mem_below_of_mem_children hx hc
    rw [Place.below_eq, List.pairwise_cons, List.pairwise_flatMap]
    refine ⟨fun y hy => ?_, fun c hc => ih c hc (hplace hc), ?_⟩
    · refine h.row_le_of_mem_below hx ?_
      rw [Place.below_eq]
      exact List.mem_cons_of_mem x hy
    · refine (Place.pairwise_children x).imp_of_mem fun {c d} hc hd hbefore y hy z hz => ?_
      have hc' : c.node ∈ d.before := hbefore.subset List.mem_cons_self
      obtain ⟨y', hy', heq⟩ := Place.within_iff (x := ⟨.root c.node, []⟩).mp
        (Place.within_iff (x := c) |>.mpr ⟨y, hy, rfl⟩)
      have hyd : y'.node.row ≤ d.node.row := (h d (hplace hd)).before_le c.node hc' y' hy'
      exact Nat.le_trans (heq ▸ hyd) (h.row_le_of_mem_below (hplace hd) hz)

end Node.StartsInOrder

end Syntax

namespace Extraction

open Syntax

variable {lastRow : Nat} {tree : Node}

/-- The first line of a node and its decorators is the least of theirs. -/
theorem isLeast_firstLine (n : Node) (decorators : List Decorator) :
    IsLeast {line | line ∈ n.line :: decorators.map Decorator.line} (firstLine n decorators) := by
  have hmin : (n.line :: decorators.map Decorator.line).min? = some (firstLine n decorators) := by
    rw [List.min?_cons', List.foldl_map]
    rfl
  exact List.min?_eq_some_iff.mp hmin

/-- A line on which a node within `n` begins is no line above that of `n`. -/
theorem line_le_of_begins (h : tree.StartsInOrder lastRow) {n : Node} (hn : tree.Within n)
    {line : Int} (hline : Begins n line) : n.line ≤ line := by
  obtain ⟨m, hm, rfl⟩ := hline
  have hrow := h.row_le_of_within hn hm
  simp only [Node.line]
  omega

/-- A declaration is on no line below that of its node. -/
theorem IsReadFrom.line_le {s : Site} {d : Declaration} (hd : IsReadFrom s d) :
    d.line ≤ s.node.line := by
  rw [hd.line_eq]
  exact (isLeast_firstLine s.node d.decorators).2 List.mem_cons_self

/-- Parameters are on no line above that of the method. -/
theorem line_le_of_mem_parameters (h : tree.StartsInOrder lastRow) {s : Site}
    (hs : tree.Within s.node) {kind : DeclarationKind} {p : Declaration}
    (hp : p ∈ (memberOf s kind).parameters) : (memberOf s kind).line ≤ p.line := by
  have hline : (memberOf s kind).line ≤ s.node.line := IsReadFrom.line_le ⟨rfl, rfl⟩
  simp only [memberOf] at hp
  split at hp
  · have hparameter := line_le_of_begins h hs (begins_of_mem_parametersOf .refl hp (.own rfl))
    exact Int.le_trans hline hparameter
  · cases hp

/-- Members are on no line above that of the class, and their parameters on none above theirs. -/
theorem nested_of_mem_members (h : tree.StartsInOrder lastRow) {s : Site}
    (hs : tree.Within s.node) {m : Declaration} (hm : m ∈ (classOf s).members) :
    (classOf s).line ≤ m.line ∧ ∀ p ∈ m.parameters, m.line ≤ p.line := by
  obtain ⟨t, kind, ht, rfl⟩ := exists_site_of_mem_members .refl hm
  have hline : (classOf s).line ≤ s.node.line := (isReadFrom_classOf s).line_le
  have hmember : s.node.line ≤ (memberOf t kind).line :=
    line_le_of_begins h hs (begins_of_mentions_memberOf ht (.own rfl))
  exact ⟨Int.le_trans hline hmember, fun p => line_le_of_mem_parameters h (hs.trans ht.node)⟩

/-- The lines of calls ascend. -/
theorem pairwise_line_calls (h : tree.StartsInOrder lastRow) (path : String) :
    ((parsedFileOf path tree).calls.map CallSite.line).Pairwise (· ≤ ·) := by
  have hplaces := h.pairwise_row_le_below (Place.mem_below _ : ⟨.root tree, []⟩ ∈ tree.places)
  rw [List.pairwise_map, parsedFileOf]
  simp only [Site.ofKind_eq_map_places, List.filterMap_map]
  refine (hplaces.filter _).filterMap _ fun x y hrow a ha b hb => ?_
  rw [line_of_callOf?_eq_some ha, line_of_callOf?_eq_some hb, Node.line, Node.line]
  omega

/-- In what is read off a tree whose nodes start in the order of a source text, each declaration
is on the first of the lines of its node and its decorators. These lines nest: a class is on no
line below a member, and a member on none below a parameter. All lines are those of the text, and
the lines of calls ascend. -/
theorem lines_nested (path source : String) (tree : Node)
    (h : tree.StartsInOrder (source.toList.count '\n')) :
    List.Forall₂ (fun x d => d.decorators = decoratorsOf x.toSite ∧
        IsLeast {line | line ∈ x.node.line :: d.decorators.map Decorator.line} d.line)
      tree.declared (parsedFileOf path tree).declarations ∧
    (∀ c ∈ (parsedFileOf path tree).classes, ∀ m ∈ c.members,
      c.line ≤ m.line ∧ ∀ p ∈ m.parameters, m.line ≤ p.line) ∧
    (∀ line, (parsedFileOf path tree).Mentions line →
      1 ≤ line ∧ line ≤ source.toList.count '\n' + 1) ∧
    ((parsedFileOf path tree).calls.map CallSite.line).Pairwise (· ≤ ·) := by
  refine ⟨(forall₂_declarations path tree).imp fun x d hd => ?_, fun c hc m hm => ?_,
    fun line hline => ?_, pairwise_line_calls h path⟩
  · exact ⟨hd.decorators_eq, hd.line_eq ▸ isLeast_firstLine x.node d.decorators⟩
  · obtain ⟨s, hs, rfl⟩ := List.mem_map.mp hc
    exact nested_of_mem_members h (Site.Within.of_mem_ofKind hs).node hm
  · obtain ⟨n, hn, rfl⟩ := begins_of_mentions_parsedFileOf hline
    have hrow := h.row_le_of_within_tree hn
    rw [Node.line]
    omega

/-- The source of a class with a decorated method, and of a call within a call. -/
def decoratedText : String := "@A class B \x7b\n  @C\n  m(\n    @D d) \x7b\x7d\n\x7d\ne\n.f(g.h())"

/-- The tree of this source. -/
def decoratedTree : Node :=
  ⟨.program, none, 0, decoratedText, [
    ⟨.classDeclaration, none, 0, "@A class B \x7b\n  @C\n  m(\n    @D d) \x7b\x7d\n\x7d", [
      ⟨.decorator, none, 0, "@A", [⟨.identifier, none, 0, "A", []⟩]⟩,
      ⟨.identifier, some .name, 0, "B", []⟩,
      ⟨.classBody, some .body, 0, "\x7b\n  @C\n  m(\n    @D d) \x7b\x7d\n\x7d", [
        ⟨.decorator, none, 1, "@C", [⟨.identifier, none, 1, "C", []⟩]⟩,
        ⟨.methodDefinition, none, 2, "m(\n    @D d) \x7b\x7d", [
          ⟨.identifier, some .name, 2, "m", []⟩,
          ⟨.parameters, some .parameters, 2, "(\n    @D d)", [
            ⟨.requiredParameter, none, 3, "@D d", [
              ⟨.decorator, none, 3, "@D", [⟨.identifier, none, 3, "D", []⟩]⟩,
              ⟨.identifier, some .pattern, 3, "d", []⟩]⟩]⟩,
          ⟨.other, some .body, 3, "\x7b\x7d", []⟩]⟩]⟩]⟩,
    ⟨.call, none, 5, "e\n.f(g.h())", [
      ⟨.member, some .callee, 5, "e\n.f", [
        ⟨.identifier, some .object, 5, "e", []⟩,
        ⟨.identifier, some .property, 6, "f", []⟩]⟩,
      ⟨.arguments, some .arguments, 6, "(g.h())", [
        ⟨.call, none, 6, "g.h()", [
          ⟨.member, some .callee, 6, "g.h", [
            ⟨.identifier, some .object, 6, "g", []⟩,
            ⟨.identifier, some .property, 6, "h", []⟩]⟩,
          ⟨.arguments, some .arguments, 6, "()", []⟩]⟩]⟩]⟩]⟩

/-- The nodes of this tree start in the order of its source, and the lines of the class, its
method and its parameter nest. -/
theorem lines_nested_decorated :
    decoratedTree.StartsInOrder (decoratedText.toList.count '\n') ∧
      (parsedFileOf "b.ts" decoratedTree).declarations.map Declaration.line = [1, 2, 4] ∧
      (parsedFileOf "b.ts" decoratedTree).calls.map CallSite.line = [6, 7] ∧
      ∀ c ∈ (parsedFileOf "b.ts" decoratedTree).classes, ∀ m ∈ c.members,
        c.line ≤ m.line ∧ ∀ p ∈ m.parameters, m.line ≤ p.line := by
  have hstarts : decoratedTree.StartsInOrder (decoratedText.toList.count '\n') := by decide
  exact ⟨hstarts, by decide +kernel, by decide +kernel,
    (lines_nested "b.ts" decoratedText decoratedTree hstarts).2.1⟩

end Extraction

end ModuleLint
