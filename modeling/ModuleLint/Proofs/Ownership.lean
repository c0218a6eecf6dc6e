import ModuleLint.Proofs.Exports
import ModuleLint.Proofs.Extracted

/-!
# Whose a decorator is

A decorator stands among the children of what it decorates, before it in a class body, or in the
export statement around a class. Node by node these are different places: no decorator stands in
two of them, and in each of them it leads to one declaration at most, so that none is listed twice.
-/

namespace ModuleLint

namespace Syntax

/-- What is taken from a list in order, as long as a test goes on, is what nothing before fails. -/
theorem mem_takeWhile_iff {α : Type} {R : α → α → Prop} (hasymm : ∀ a b, R a b → ¬R b a)
    {p : α → Bool} {xs : List α} (h : xs.Pairwise R) {x : α} :
    x ∈ xs.takeWhile p ↔ x ∈ xs ∧ p x ∧ ∀ y ∈ xs, R y x → p y := by
  induction h with
  | nil => simp
  | @cons a xs ha hxs ih =>
    by_cases hp : p a
    · rw [List.takeWhile_cons_of_pos hp, List.mem_cons, ih]
      constructor
      · rintro (rfl | ⟨hx, hpx, hbefore⟩)
        · refine ⟨List.mem_cons_self, hp, fun y hy hyx => ?_⟩
          obtain rfl | hy := List.mem_cons.mp hy
          · exact hp
          · exact absurd hyx (hasymm _ _ (ha y hy))
        · exact ⟨List.mem_cons_of_mem _ hx, hpx, List.forall_mem_cons.mpr ⟨fun _ => hp, hbefore⟩⟩
      · rintro ⟨hx, hpx, hbefore⟩
        obtain rfl | hx := List.mem_cons.mp hx
        · exact .inl rfl
        · exact .inr ⟨hx, hpx, (List.forall_mem_cons.mp hbefore).2⟩
    · rw [List.takeWhile_cons_of_neg hp]
      refine ⟨fun hx => absurd hx List.not_mem_nil, fun ⟨hx, hpx, hbefore⟩ => ?_⟩
      obtain rfl | hx := List.mem_cons.mp hx
      · exact absurd hpx hp
      · exact absurd (hbefore a List.mem_cons_self (ha x hx)) hp

namespace Place

variable {tree : Node} {u v x y d : Place}

/-! ## Decorators and where they stand -/

/-- The places of the children of the parent, if there is one. -/
def siblings (x : Place) : List Place :=
  (x.parent.map fun parent => children ⟨.root parent, x.position.tail⟩).getD []

/-- The places of the siblings before a place, the nearest first. -/
def siblingsBefore (x : Place) : List Place :=
  (x.siblings.take x.before.length).reverse

/-- The places of the decorators of a node that stand outside it. -/
def outerDecorators (x : Place) : List Place :=
  match x.parent with
  | none => []
  | some parent =>
    if parent.kind = .exportStatement ∧ x.node.kind.isClass then
      x.siblings.filter fun c => c.node.isDecorator
    else if parent.kind = .classBody then
      ((x.siblingsBefore.takeWhile fun c => c.node.isDecorator || c.node.isComment).filter
        fun c => c.node.isDecorator).reverse
    else []

/-- The places of the decorators of a node. -/
def decorators (x : Place) : List Place :=
  x.outerDecorators ++ x.children.filter fun c => c.node.isDecorator

/-- Among the children of a place, only decorators and comments stand between `d` and a later
`x`. -/
def LeadsTo (u d x : Place) : Prop :=
  x ∈ u.children ∧ Precedes d.position x.position ∧
    ∀ c ∈ u.children, Precedes d.position c.position → Precedes c.position x.position →
      c.node.isDecorator || c.node.isComment

/-- A decorator `d` among the children of a place belongs to the child `x`: the place is an export
statement around the class `x`, or it is a class body and `d` leads to `x`. -/
def GivesTo (u d x : Place) : Prop :=
  u.node.kind = .exportStatement ∧ x.node.kind.isClass ∨
    u.node.kind = .classBody ∧ u.LeadsTo d x

/-- The siblings of a child are the children of its parent. -/
theorem siblings_of_mem_children (h : x ∈ u.children) : x.siblings = u.children := by
  rw [siblings, parent_of_mem_children h, position_of_mem_children h]
  rfl

/-- The siblings before a child are those that precede it. -/
theorem mem_siblingsBefore_iff (h : x ∈ u.children) {c : Place} :
    c ∈ x.siblingsBefore ↔ c ∈ u.children ∧ Precedes c.position x.position := by
  obtain ⟨after, hafter⟩ := exists_children_eq_append h
  have hpairwise := pairwise_precedes_children u
  rw [siblingsBefore, siblings_of_mem_children h, List.mem_reverse]
  rw [hafter, List.pairwise_append, List.pairwise_cons] at hpairwise
  obtain ⟨-, ⟨hlater, -⟩, hearlier⟩ := hpairwise
  refine ⟨fun hc => ⟨List.mem_of_mem_take hc, hearlier c hc x List.mem_cons_self⟩, ?_⟩
  rintro ⟨hc, hprecedes⟩
  rw [hafter, List.mem_append, List.mem_cons] at hc
  obtain hc | rfl | hc := hc
  · exact hc
  · exact absurd rfl hprecedes.ne
  · exact absurd (hlater c hc) hprecedes.asymm

/-- The decorators outside a child are those among its siblings that belong to it. -/
theorem mem_outerDecorators_iff (h : x ∈ u.children) :
    d ∈ x.outerDecorators ↔ d ∈ u.children ∧ d.node.isDecorator ∧ u.GivesTo d x := by
  have hordered : x.siblingsBefore.Pairwise fun c d => Precedes d.position c.position := by
    rw [siblingsBefore, List.pairwise_reverse, siblings_of_mem_children h]
    exact (pairwise_precedes_children u).sublist (List.take_sublist _ _)
  rw [outerDecorators, parent_of_mem_children h, GivesTo]
  by_cases hexport : u.node.kind = .exportStatement ∧ x.node.kind.isClass
  · simp [hexport, siblings_of_mem_children h]
  · by_cases hbody : u.node.kind = .classBody
    · simp only [hbody, reduceCtorEq, false_and, if_false, if_true, List.mem_reverse,
        List.mem_filter, true_and, false_or,
        mem_takeWhile_iff (fun _ _ h => Precedes.asymm h) hordered, mem_siblingsBefore_iff h]
      constructor
      · rintro ⟨⟨⟨hd, hprecedes⟩, -, hbetween⟩, hdecorator⟩
        exact ⟨hd, hdecorator, h, hprecedes, fun c hc hdc hcx => hbetween c ⟨hc, hcx⟩ hdc⟩
      · rintro ⟨hd, hdecorator, -, hprecedes, hbetween⟩
        refine ⟨⟨⟨hd, hprecedes⟩, by simp [hdecorator], fun c hc hdc => ?_⟩, hdecorator⟩
        exact hbetween c hc.1 hdc hc.2
    · simp [hexport, hbody]

/-- A decorator stands in one of three places. -/
theorem mem_decorators (hx : x ∈ tree.places) (h : d ∈ x.decorators) :
    d.node.isDecorator ∧ (d ∈ x.children ∨
      ∃ u ∈ tree.places, x ∈ u.children ∧ d ∈ u.children ∧ u.GivesTo d x) := by
  rw [decorators, List.mem_append, List.mem_filter] at h
  obtain h | ⟨hd, hdecorator⟩ := h
  · obtain rfl | ⟨u, hu, hxu⟩ := eq_root_or_exists_parent hx
    · exact absurd h List.not_mem_nil
    · obtain ⟨hd, hdecorator, hgives⟩ := (mem_outerDecorators_iff hxu).mp h
      exact ⟨hdecorator, .inr ⟨u, hu, hxu, hd, hgives⟩⟩
  · exact ⟨hdecorator, .inl hd⟩

/-- Decorators are places of the tree. -/
theorem mem_places_of_mem_decorators (hx : x ∈ tree.places) (h : d ∈ x.decorators) :
    d ∈ tree.places := by
  obtain ⟨-, hd | ⟨u, hu, -, hd, -⟩⟩ := mem_decorators hx h
  · exact mem_places_of_mem_children hx hd
  · exact mem_places_of_mem_children hu hd

/-- The decorators outside a child stand among its siblings, in order. -/
theorem outerDecorators_sublist (h : x ∈ u.children) :
    x.outerDecorators.Sublist u.children := by
  rw [outerDecorators, parent_of_mem_children h, siblingsBefore, siblings_of_mem_children h]
  simp only
  split
  · exact List.filter_sublist
  · split
    · rw [← List.filter_reverse]
      refine List.filter_sublist.trans (List.reverse_sublist.mp ?_)
      rw [List.reverse_reverse]
      exact (List.takeWhile_sublist _).trans (List.take_sublist _ _).reverse
    · exact List.nil_sublist _

/-- The decorators at these places are those that are read off the site. -/
theorem map_node_decorators (hx : x ∈ tree.places) :
    x.decorators.map (·.node) = x.toSite.decorators := by
  have hdecorators (xs : List Place) : (xs.filter fun c => c.node.isDecorator).map (·.node) =
      (xs.map (·.node)).filter Node.isDecorator := by
    rw [List.filter_map]
    rfl
  rw [decorators, Site.decorators, List.map_append, hdecorators, map_node_children]
  refine congrArg (· ++ _) ?_
  obtain rfl | ⟨u, -, h⟩ := eq_root_or_exists_parent hx
  · rfl
  · have hbefore : x.siblingsBefore.map (·.node) = x.before := by
      rw [siblingsBefore, siblings_of_mem_children h, List.map_reverse, List.map_take,
        map_node_children, ← (before_of_mem_children h).2]
    have hparent := parent_of_mem_children h
    simp only [outerDecorators, Site.outerDecorators, hparent]
    split
    · rw [hdecorators, siblings_of_mem_children h, map_node_children]
      rfl
    · split
      · rw [decoratorsBefore, ← hbefore, List.map_reverse, hdecorators, List.takeWhile_map]
        rfl
      · rfl

end Place

/-! ## Owners -/

namespace Place

variable {tree : Node} {u v x y d : Place}

/-- A decorator leads to the first sibling behind it that is no decorator and no comment. -/
theorem LeadsTo.eq (hx : u.LeadsTo d x) (hy : u.LeadsTo d y)
    (hxstops : ¬(x.node.isDecorator || x.node.isComment))
    (hystops : ¬(y.node.isDecorator || y.node.isComment)) : x = y := by
  obtain hlt | heq | hlt := precedes_trichotomy hx.1 hy.1
  · exact absurd (hy.2.2 x hx.1 hx.2.1 hlt) hxstops
  · exact heq
  · exact absurd (hx.2.2 y hy.1 hy.2.1 hlt) hystops

/-- What declares something stops the walk over decorators and comments. -/
theorem stops_of_declares (h : x.node.declares) : ¬(x.node.isDecorator || x.node.isComment) := by
  obtain ⟨hdecorator, hcomment, -, -⟩ := Node.kind_ne_of_declares h
  simp [hdecorator, hcomment]

/-- What stands in an export statement or a class body stands in no declaration. -/
theorem not_mem_children_of_declares (hx : x ∈ tree.places) (hdeclares : x.node.declares)
    (hu : u ∈ tree.places) (hd : d ∈ u.children)
    (hkind : u.node.kind = .exportStatement ∨ u.node.kind = .classBody) : d ∉ x.children := by
  intro hdx
  obtain rfl := eq_of_mem_children hx hu hdx hd
  obtain ⟨-, -, hexport, hbody⟩ := Node.kind_ne_of_declares hdeclares
  exact hkind.elim hexport hbody

/-- Two children to which a place gives one decorator are the same, if both declare something. -/
theorem GivesTo.eq (h : tree.WrapsOneClass) (hu : u ∈ tree.places) (hx : x ∈ u.children)
    (hy : y ∈ u.children) (hxdeclares : x.node.declares) (hydeclares : y.node.declares)
    (hdx : u.GivesTo d x) (hdy : u.GivesTo d y) : x = y := by
  obtain ⟨hexport, hxclass⟩ | ⟨hbody, hxleads⟩ := hdx <;>
    obtain ⟨hexport', hyclass⟩ | ⟨hbody', hyleads⟩ := hdy
  · exact h.eq hu hexport hx hy hxclass hyclass
  · exact absurd (hexport.symm.trans hbody') (by decide)
  · exact absurd (hexport'.symm.trans hbody) (by decide)
  · exact hxleads.eq hyleads (stops_of_declares hxdeclares) (stops_of_declares hydeclares)

/-- A decorator belongs to one declaration. -/
theorem eq_of_mem_decorators (h : tree.WrapsOneClass) (hx : x ∈ tree.declared)
    (hy : y ∈ tree.declared) (hdx : d ∈ x.decorators) (hdy : d ∈ y.decorators) : x = y := by
  obtain ⟨hx, hxdeclares⟩ := Node.mem_declared hx
  obtain ⟨hy, hydeclares⟩ := Node.mem_declared hy
  obtain ⟨-, hdx | ⟨u, hu, hxu, hdu, hgives⟩⟩ := mem_decorators hx hdx <;>
    obtain ⟨-, hdy | ⟨v, hv, hyv, hdv, hgives'⟩⟩ := mem_decorators hy hdy
  · exact eq_of_mem_children hx hy hdx hdy
  · exact absurd hdx (not_mem_children_of_declares hx hxdeclares hv hdv
      (hgives'.imp And.left And.left))
  · exact absurd hdy (not_mem_children_of_declares hy hydeclares hu hdu
      (hgives.imp And.left And.left))
  · obtain rfl := eq_of_mem_children hu hv hdu hdv
    exact GivesTo.eq h hu hxu hyv hxdeclares hydeclares hgives hgives'

/-- No decorator of a place is listed twice. -/
theorem nodup_decorators (hx : x ∈ tree.places) : x.decorators.Nodup := by
  refine List.nodup_append'.mpr ⟨?_, x.nodup_children.filter _, fun d houter hown => ?_⟩
  · obtain rfl | ⟨u, -, hxu⟩ := eq_root_or_exists_parent hx
    · exact .nil
    · exact u.nodup_children.sublist (outerDecorators_sublist hxu)
  · obtain rfl | ⟨u, hu, hxu⟩ := eq_root_or_exists_parent hx
    · exact absurd houter List.not_mem_nil
    · obtain rfl := eq_of_mem_children hx hu (List.mem_of_mem_filter hown)
        ((outerDecorators_sublist hxu).subset houter)
      exact absurd (congrArg List.length (position_of_mem_children hxu)) (by simp)

/-- The decorators outside a node stand before it, if those in an export statement do. -/
theorem precedes_of_mem_outerDecorators (h : tree.DecoratesInFront) (hu : u ∈ tree.places)
    (hx : x ∈ u.children) (hd : d ∈ x.outerDecorators) : Precedes d.position x.position := by
  obtain ⟨hd, hdecorator, ⟨hexport, hclass⟩ | ⟨-, hleads⟩⟩ := (mem_outerDecorators_iff hx).mp hd
  · exact h u hu hexport d hd hdecorator x hx hclass
  · exact hleads.2.1

/-- The decorators of a place are listed in source order, if those in an export statement stand
before the class. -/
theorem pairwise_decorators (h : tree.DecoratesInFront) (hx : x ∈ tree.places) :
    x.decorators.Pairwise fun d e => Precedes d.position e.position := by
  have hown : (x.children.filter fun c => c.node.isDecorator).Pairwise fun d e =>
      Precedes d.position e.position := (pairwise_precedes_children x).filter _
  obtain rfl | ⟨u, hu, hxu⟩ := eq_root_or_exists_parent hx
  · exact hown
  · have houter := (pairwise_precedes_children u).sublist (outerDecorators_sublist hxu)
    refine List.pairwise_append.mpr ⟨houter, hown, fun d hd e he => ?_⟩
    have hprecedes := precedes_of_mem_outerDecorators h hu hxu hd
    rw [position_of_mem_children ((outerDecorators_sublist hxu).subset hd),
      position_of_mem_children hxu, precedes_cons_iff] at hprecedes
    rw [position_of_mem_children (List.mem_of_mem_filter he), position_of_mem_children hxu,
      position_of_mem_children ((outerDecorators_sublist hxu).subset hd)]
    exact precedes_of_lt hprecedes u.position [] [e.before.length]

/-- A decorator in a class body belongs to what it leads to. -/
theorem mem_decorators_iff_leadsTo (hu : u ∈ tree.places) (hbody : u.node.kind = .classBody)
    (hd : d ∈ u.children) (hdecorator : d.node.isDecorator) (hx : x ∈ tree.declared) :
    d ∈ x.decorators ↔ u.LeadsTo d x := by
  obtain ⟨hx, hdeclares⟩ := Node.mem_declared hx
  constructor
  · intro h
    obtain ⟨-, hdx | ⟨v, hv, hxv, hdv, hgives⟩⟩ := mem_decorators hx h
    · exact absurd hdx (not_mem_children_of_declares hx hdeclares hu hd (.inr hbody))
    · obtain rfl := eq_of_mem_children hu hv hd hdv
      obtain ⟨hexport, -⟩ | ⟨-, hleads⟩ := hgives
      · exact absurd (hexport.symm.trans hbody) (by decide)
      · exact hleads
  · intro h
    exact List.mem_append_left _ ((mem_outerDecorators_iff h.1).mpr
      ⟨hd, hdecorator, .inr ⟨hbody, h⟩⟩)

end Place

namespace Node

variable {tree : Node}

/-- No decorator is listed twice, neither with one declaration nor with two. -/
theorem nodup_flatMap_decorators (h : tree.WrapsOneClass) :
    ((tree.declared.flatMap Place.decorators).map Place.position).Nodup := by
  have hplaces {x : Place} (hx : x ∈ tree.declared) : x ∈ tree.places := (mem_declared hx).1
  have hdecorators (d : Place) (hd : d ∈ tree.declared.flatMap Place.decorators) :
      d ∈ tree.places := by
    obtain ⟨x, hx, hd⟩ := List.mem_flatMap.mp hd
    exact Place.mem_places_of_mem_decorators (hplaces hx) hd
  have hnodup : (tree.declared.flatMap Place.decorators).Nodup :=
    nodup_flatMap_of_injective tree.nodup_declared
      (fun x hx => Place.nodup_decorators (hplaces hx))
      fun x hx y hy d => Place.eq_of_mem_decorators h hx hy
  exact hnodup.map_on fun d hd e he => eq_of_position_eq (hdecorators d hd) (hdecorators e he)

end Node

end Syntax

namespace Extraction

open Syntax

/-- Whatever the source text, no decorator is listed twice in its declarations, and those of each
are listed in source order. -/
theorem decorators_read (dialect : TypeScript.Dialect) (text : String) :
    (((TypeScript.read dialect text).declared.flatMap Place.decorators).map
        Place.position).Nodup ∧
      ∀ x ∈ (TypeScript.read dialect text).declared,
        x.decorators.Pairwise fun d e => Precedes d.position e.position :=
  ⟨Node.nodup_flatMap_decorators (TypeScript.wrapsOneClass_read dialect text), fun _ hx =>
    Place.pairwise_decorators (TypeScript.decoratesInFront_read dialect text)
      (Node.mem_declared hx).1⟩

/-- The decorators of all declarations of a file are read off different places, if every export
statement is around one class at most. Those of each declaration are listed in source order where
no decorator stands behind an exported class, as in all trees that are read from a text. A
decorator in a class body belongs to the declaration that it leads to over decorators and comments
alone; one that leads to anything else belongs to none. -/
theorem decorators_owned_once (path : String) (tree : Node) (h : tree.WrapsOneClass) :
    (∀ x ∈ tree.places, x.decorators.map (·.node) = x.toSite.decorators) ∧
    List.Forall₂ (fun x d => d.decorators = x.decorators.map fun y => decoratorOf y.node)
      tree.declared (parsedFileOf path tree).declarations ∧
    ((tree.declared.flatMap Place.decorators).map Place.position).Nodup ∧
    (∀ x ∈ tree.declared, x.decorators ⊆ tree.places) ∧
    ((tree.DecoratesInFront ∨ ∃ dialect text, tree = TypeScript.read dialect text) →
      ∀ x ∈ tree.declared, x.decorators.Pairwise fun d e => Precedes d.position e.position) ∧
    ∀ body ∈ tree.places, body.node.kind = .classBody →
      ∀ d ∈ body.children, d.node.isDecorator →
        (∀ x ∈ tree.declared, d ∈ x.decorators ↔ body.LeadsTo d x) ∧
        ∀ n, body.LeadsTo d n → ¬(n.node.isDecorator || n.node.isComment) → n ∉ tree.declared →
          ∀ x ∈ tree.declared, d ∉ x.decorators := by
  have hplaces {x : Place} (hx : x ∈ tree.declared) : x ∈ tree.places := (Node.mem_declared hx).1
  refine ⟨fun x hx => Place.map_node_decorators hx, ?_, Node.nodup_flatMap_decorators h,
    fun x hx d => Place.mem_places_of_mem_decorators (hplaces hx), fun hfront x hx => ?_,
    fun body hbody hkind d hd hdecorator => ?_⟩
  · refine ((List.forall₂_and_left _ _).mpr
      ⟨fun x hx => hplaces hx, forall₂_declarations path tree⟩).imp ?_
    rintro x d ⟨hx, hd⟩
    rw [hd.decorators_eq, decoratorsOf, ← Place.map_node_decorators hx, List.map_map]
    rfl
  · obtain hfront | ⟨dialect, text, rfl⟩ := hfront
    · exact Place.pairwise_decorators hfront (hplaces hx)
    · exact (decorators_read dialect text).2 x hx
  · have hiff (x : Place) (hx : x ∈ tree.declared) : d ∈ x.decorators ↔ body.LeadsTo d x :=
      Place.mem_decorators_iff_leadsTo hbody hkind hd hdecorator hx
    refine ⟨hiff, fun n hn hstops hundeclared x hx hdx => ?_⟩
    obtain rfl := hn.eq ((hiff x hx).mp hdx) hstops
      (Place.stops_of_declares (Node.mem_declared hx).2)
    exact hundeclared hx

/-- The tree of an exported class `C` with decorators before and after the word `export`. In its
body a decorator and a comment stand before a method, and a decorator before a signature. -/
def exportedTree : Node :=
  ⟨.program, none, 0, "@A export @B class C \x7b ... \x7d", [
    ⟨.exportStatement, none, 0, "@A export @B class C \x7b ... \x7d", [
      ⟨.decorator, none, 0, "@A", [⟨.identifier, none, 0, "A", []⟩]⟩,
      ⟨.classDeclaration, none, 0, "@B class C \x7b ... \x7d", [
        ⟨.decorator, none, 0, "@B", [⟨.identifier, none, 0, "B", []⟩]⟩,
        ⟨.identifier, some .name, 0, "C", []⟩,
        ⟨.classBody, some .body, 0, "\x7b ... \x7d", [
          ⟨.decorator, none, 1, "@D", [⟨.identifier, none, 1, "D", []⟩]⟩,
          ⟨.comment, none, 1, "//", []⟩,
          ⟨.methodDefinition, none, 2, "m(@E e) \x7b\x7d", [
            ⟨.identifier, some .name, 2, "m", []⟩,
            ⟨.parameters, some .parameters, 2, "(@E e)", [
              ⟨.requiredParameter, none, 2, "@E e", [
                ⟨.decorator, none, 2, "@E", [⟨.identifier, none, 2, "E", []⟩]⟩,
                ⟨.identifier, some .pattern, 2, "e", []⟩]⟩]⟩,
            ⟨.other, some .body, 2, "\x7b\x7d", []⟩]⟩,
          ⟨.decorator, none, 3, "@F", [⟨.identifier, none, 3, "F", []⟩]⟩,
          ⟨.other, none, 3, "n(): void", []⟩,
          ⟨.token, none, 3, ";", []⟩,
          ⟨.fieldDefinition, none, 4, "o", [⟨.identifier, some .name, 4, "o", []⟩]⟩]⟩]⟩]⟩]⟩

/-- Each decorator in this tree is listed once, but for the one that leads to the signature. -/
theorem decorators_owned_once_exported :
    exportedTree.WrapsOneClass ∧ exportedTree.DecoratesInFront ∧
      ((parsedFileOf "c.ts" exportedTree).declarations.map fun d =>
        (d.nameOrEmpty, d.decorators.map Decorator.name)) =
          [("C", ["A", "B"]), ("m", ["D"]), ("e", ["E"]), ("o", [])] ∧
      ((exportedTree.declared.flatMap Place.decorators).map Place.position) =
        [[0, 0], [0, 1, 0], [0, 2, 1, 0], [0, 0, 1, 2, 2, 1, 0]] ∧
      ((exportedTree.declared.flatMap Place.decorators).map Place.position).Nodup := by
  have hwraps : exportedTree.WrapsOneClass := by decide +kernel
  exact ⟨hwraps, by decide +kernel, by decide +kernel, by decide +kernel,
    (decorators_owned_once "c.ts" exportedTree hwraps).2.2.1⟩

/-- The tree of an exported class that has a decorator of its own and another one behind it. -/
def followedTree : Node :=
  ⟨.program, none, 0, "export @B class C \x7b\x7d @A", [
    ⟨.exportStatement, none, 0, "export @B class C \x7b\x7d @A", [
      ⟨.classDeclaration, none, 0, "@B class C \x7b\x7d", [
        ⟨.decorator, none, 0, "@B", [⟨.identifier, none, 0, "B", []⟩]⟩,
        ⟨.identifier, some .name, 0, "C", []⟩,
        ⟨.classBody, some .body, 0, "\x7b\x7d", []⟩]⟩,
      ⟨.decorator, none, 0, "@A", [⟨.identifier, none, 0, "A", []⟩]⟩]⟩]⟩

/-- The decorators of an export statement are listed first even where one of them stands behind the
class. In a text, a decorator before an abstract property is part of the property, and so not lost
as one before an abstract method is. -/
theorem not_forall_decorators_inOrder :
    ¬ (∀ tree : Node, tree.WrapsOneClass → ∀ x ∈ tree.declared,
        x.decorators.Pairwise fun d e => Precedes d.position e.position) ∧
    ((parsedFileOf "c.ts" (TypeScript.read .plain
        "abstract class A \x7b @F() abstract q: string; \x7d")).declarations.map fun d =>
      (d.nameOrEmpty, d.decorators.map Decorator.name)) = [("A", []), ("q", ["F"])] := by
  refine ⟨fun h => ?_, by decide +kernel⟩
  have hlisted : ∃ x ∈ followedTree.declared,
      x.decorators.map Place.position = [[1, 0], [0, 0, 0]] := by decide +kernel
  obtain ⟨x, hx, hpositions⟩ := hlisted
  have hordered := List.pairwise_map.mpr (h followedTree (by decide +kernel) x hx)
  rw [hpositions] at hordered
  have hprecedes : ¬ Precedes [1, 0] [0, 0, 0] := by unfold Precedes; decide
  exact hprecedes (List.rel_of_pairwise_cons hordered List.mem_cons_self)

end Extraction

end ModuleLint
