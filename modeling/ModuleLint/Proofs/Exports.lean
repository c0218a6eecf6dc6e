import ModuleLint.Proofs.Declarations
import ModuleLint.Proofs.OrderlyStatements
import ModuleLint.Proofs.Places

/-!
# Export statements

An export statement is around one class at most, and the decorators that are children of it stand
before this class. Not every tree is so, but those that are read from a source text are: their
outlines are orderly, and the tree of an orderly outline has such export statements alone.
-/

namespace ModuleLint

namespace Syntax

namespace Node

variable {tree : Node} {x : Place}

/-- Every export statement of a tree is around one class at most. -/
def WrapsOneClass (tree : Node) : Prop :=
  ∀ u ∈ tree.places, u.node.kind = .exportStatement →
    u.node.children.countP (fun c => c.kind.isClass) ≤ 1

instance (tree : Node) : Decidable tree.WrapsOneClass :=
  inferInstanceAs (Decidable (∀ u ∈ tree.places, u.node.kind = .exportStatement →
    u.node.children.countP (fun c => c.kind.isClass) ≤ 1))

/-- In every export statement of a tree, the decorators stand before the class. -/
def DecoratesInFront (tree : Node) : Prop :=
  ∀ u ∈ tree.places, u.node.kind = .exportStatement →
    ∀ d ∈ u.children, d.node.isDecorator → ∀ c ∈ u.children, c.node.kind.isClass →
      Precedes d.position c.position

instance (tree : Node) : Decidable tree.DecoratesInFront :=
  inferInstanceAs (Decidable (∀ u ∈ tree.places, u.node.kind = .exportStatement →
    ∀ d ∈ u.children, d.node.isDecorator → ∀ c ∈ u.children, c.node.kind.isClass →
      d.position.reverse < c.position.reverse))

/-- The class in an export statement is the only one. -/
theorem WrapsOneClass.eq (h : tree.WrapsOneClass) {u y : Place} (hu : u ∈ tree.places)
    (hexport : u.node.kind = .exportStatement) (hx : x ∈ u.children) (hy : y ∈ u.children)
    (hxclass : x.node.kind.isClass) (hyclass : y.node.kind.isClass) : x = y := by
  have hcount : (u.children.filter fun c => c.node.kind.isClass).length ≤ 1 := by
    have hle := h u hu hexport
    rwa [← Place.map_node_children, List.countP_map, List.countP_eq_length_filter] at hle
  have hxmem : x ∈ u.children.filter fun c => c.node.kind.isClass :=
    List.mem_filter.mpr ⟨hx, hxclass⟩
  have hymem : y ∈ u.children.filter fun c => c.node.kind.isClass :=
    List.mem_filter.mpr ⟨hy, hyclass⟩
  generalize u.children.filter (fun c => c.node.kind.isClass) = classes at hcount hxmem hymem
  match classes, hcount with
  | [z], _ => exact (List.mem_singleton.mp hxmem).trans (List.mem_singleton.mp hymem).symm

end Node

end Syntax

namespace TypeScript

open Syntax

variable {s : Source}

/-- The tree of an outline is of the same kind. -/
theorem kind_toNode (s : Source) (o : Outline) : (o.toNode s).kind = o.kind := by
  obtain ⟨kind, slot, start, stop, children⟩ := o
  rfl

/-- The children of the tree of an outline are the trees of its children. -/
theorem children_toNode (s : Source) (o : Outline) :
    (o.toNode s).children = o.children.map (Outline.toNode s) := by
  obtain ⟨kind, slot, start, stop, children⟩ := o
  exact toNodes_eq_map s children

/-- All nodes at and below the place of an orderly outline are those of orderly outlines. -/
theorem exists_orderly_of_mem_below {x y : Place} {o : Outline} (ho : o.Orderly)
    (hx : x.node = o.toNode s) (hy : y ∈ x.below) :
    ∃ o' : Outline, o'.Orderly ∧ y.node = o'.toNode s := by
  induction x using Place.induction generalizing o with
  | step x ih =>
    rw [Place.below_eq, List.mem_cons, List.mem_flatMap] at hy
    obtain rfl | ⟨c, hc, hy⟩ := hy
    · exact ⟨o, ho, hx⟩
    · have hchild : c.node ∈ x.node.children := x.map_node_children ▸ List.mem_map_of_mem hc
      rw [hx, children_toNode] at hchild
      obtain ⟨o', ho', heq⟩ := List.mem_map.mp hchild
      cases ho with
      | intro exported children => exact ih c hc (children o' ho') heq.symm hy

/-- The children of an export statement of a source text are those of an exported outline. -/
theorem exists_areExported {dialect : Dialect} {text : String} {u : Place}
    (hu : u ∈ (read dialect text).places) (hexport : u.node.kind = .exportStatement) :
    ∃ os, AreExported os ∧ u.node.children = os.map (Outline.toNode (.ofList text.toList)) := by
  obtain ⟨o, ho, hnode⟩ := exists_orderly_of_mem_below (orderly_outline dialect _) rfl hu
  cases ho with
  | intro exported children =>
    rw [hnode, kind_toNode] at hexport
    exact ⟨o.children, exported hexport, hnode ▸ children_toNode _ o⟩

/-- In a tree that is read from a source text, export statements are around one class at most. -/
theorem wrapsOneClass_read (dialect : Dialect) (text : String) :
    (read dialect text).WrapsOneClass := by
  intro u hu hexport
  obtain ⟨os, ⟨before, parts, rfl, hbefore, -, hparts⟩, hchildren⟩ := exists_areExported hu hexport
  have hnone : before.countP (fun o => o.kind.isClass) = 0 :=
    List.countP_eq_zero.mpr fun o ho => by simp [hbefore o ho]
  rw [hchildren, List.countP_map]
  simp only [Function.comp_def, kind_toNode, List.countP_append, hnone]
  omega

/-- In a tree that is read from a source text, the decorators in an export statement stand before
the class. -/
theorem decoratesInFront_read (dialect : Dialect) (text : String) :
    (read dialect text).DecoratesInFront := by
  intro u hu hexport d hd hdecorator c hc hclass
  obtain ⟨os, ⟨before, parts, rfl, hbefore, hparts, -⟩, hchildren⟩ := exists_areExported hu hexport
  have hordered : u.node.children.Pairwise fun n m => ¬(n.kind.isClass ∧ m.isDecorator) := by
    simp only [hchildren, List.pairwise_map, List.pairwise_append, Node.isDecorator, kind_toNode]
    refine ⟨List.pairwise_of_forall_mem_list fun o ho _ _ h => ?_,
      List.pairwise_of_forall_mem_list fun _ _ o ho h => ?_, fun o ho _ _ h => ?_⟩
    · exact Bool.false_ne_true ((hbefore o ho).symm.trans h.1)
    · exact hparts o ho (beq_iff_eq.mp h.2)
    · exact Bool.false_ne_true ((hbefore o ho).symm.trans h.1)
  obtain hprecedes | rfl | hprecedes := Place.precedes_trichotomy hd hc
  · exact hprecedes
  · rw [beq_iff_eq.mp hdecorator] at hclass
    exact absurd hclass Bool.false_ne_true
  · exact absurd ⟨hclass, hdecorator⟩ (Place.rel_of_precedes hordered hc hd hprecedes)

end TypeScript

end ModuleLint
