import Mathlib.Data.List.Basic
import ModuleLint.Syntax.Site

/-!
# Places of a syntax tree

Nodes that look alike are told apart by where they stand. A position leads from the root to a node,
and a place is a site with its position. The places of a tree are listed by recursion on the tree,
a node before its descendants and siblings from left to right, so that the list ascends in the
order of the source text and has each place once. The visit, which keeps a stack of its own, goes
through the very same list.
-/

namespace ModuleLint.Syntax

/-- Where a node stands in a tree: its index among its siblings, then that of its parent among its
own siblings, and so on up to the root, which stands at `[]`. -/
abbrev Position := List Nat

/-- The node at a position stands before another one in the source text: it is an ancestor of the
other, or it is to the left of it. -/
def Precedes (p q : Position) : Prop := p.reverse < q.reverse

/-- A position is before all positions below it. -/
theorem precedes_below (p : Position) (i : Nat) (r : Position) : Precedes p (r ++ i :: p) := by
  have h : p.reverse ++ [] < p.reverse ++ i :: r.reverse :=
    List.append_left_lt (List.nil_lt_cons i r.reverse)
  simpa [Precedes] using h

/-- What is at or below a sibling is before what is at or below a later one. -/
theorem precedes_of_lt {i j : Nat} (hij : i < j) (p r s : Position) :
    Precedes (r ++ i :: p) (s ++ j :: p) := by
  have h : p.reverse ++ i :: r.reverse < p.reverse ++ j :: s.reverse :=
    List.append_left_lt (List.cons_lt_cons_iff.mpr (.inl hij))
  simpa [Precedes] using h

/-- No position is before itself. -/
theorem Precedes.ne {p q : Position} (h : Precedes p q) : p ≠ q := by
  rintro rfl
  exact List.lt_irrefl _ h

/-- Of two positions at most one is before the other. -/
theorem Precedes.asymm {p q : Position} (h : Precedes p q) : ¬Precedes q p :=
  List.lt_asymm h

/-- Siblings stand in the order of their indices. -/
theorem precedes_cons_iff {i j : Nat} {p : Position} : Precedes (i :: p) (j :: p) ↔ i < j := by
  refine ⟨fun h => ?_, fun h => precedes_of_lt h p [] []⟩
  by_contra hij
  obtain hji | rfl := Nat.lt_or_eq_of_le (Nat.le_of_not_lt hij)
  · exact h.asymm (precedes_of_lt hji p [] [])
  · exact h.ne rfl

namespace Node

/-- What holds of a node if it holds of its children holds of every node. -/
@[elab_as_elim]
theorem induction {motive : Node → Prop}
    (step : ∀ n, (∀ c ∈ n.children, motive c) → motive n) (n : Node) : motive n :=
  step n fun c _ => induction step c
termination_by n
decreasing_by
  have hsize : sizeOf c < sizeOf n.children := List.sizeOf_lt_of_mem ‹_›
  cases n
  simp only [mk.sizeOf_spec] at hsize ⊢
  omega

/-- The node at a position. -/
def at? (tree : Node) : Position → Option Node
  | [] => some tree
  | i :: p => (tree.at? p).bind fun parent => parent.children[i]?

/-- The site at a position. -/
def siteAt? (tree : Node) : Position → Option Site
  | [] => some (.root tree)
  | i :: p => (tree.at? p).bind fun parent =>
    parent.children[i]?.map fun n => ⟨n, some parent, (parent.children.take i).reverse⟩

/-- The site at a position is that of the node there. -/
theorem map_node_siteAt? (tree : Node) (p : Position) :
    (tree.siteAt? p).map Site.node = tree.at? p := by
  cases p with
  | nil => rfl
  | cons i p => simp [siteAt?, at?, Option.map_bind, Function.comp_def]

/-- The node at a position is that of the site there. -/
theorem at?_of_siteAt? {tree : Node} {p : Position} {s : Site} (h : tree.siteAt? p = some s) :
    tree.at? p = some s.node := by
  rw [← map_node_siteAt?, h, Option.map_some]

end Node

/-- A site with its position. -/
structure Place extends Site where
  /-- Where the node stands in the tree. -/
  position : Position

/-- The places of the children of a node, in source order. -/
def Place.children (x : Place) : List Place :=
  x.toSite.children.map fun s => ⟨s, s.before.length :: x.position⟩

mutual

/-- The places at and below a position, the first of which is that of the given node. -/
def placesFrom (p : Position) (parent : Option Node) (before : List Node) : Node → List Place
  | ⟨kind, slot, row, text, children⟩ =>
    ⟨⟨⟨kind, slot, row, text, children⟩, parent, before⟩, p⟩ ::
      placesAmong p ⟨kind, slot, row, text, children⟩ [] children

/-- The places at and below siblings that follow the siblings `before`. -/
def placesAmong (p : Position) (parent : Node) (before : List Node) : List Node → List Place
  | [] => []
  | n :: ns =>
    placesFrom (before.length :: p) (some parent) before n ++ placesAmong p parent (n :: before) ns

end

/-- The places at and below a place, a place before those below it and siblings from left to
right. -/
def Place.below (x : Place) : List Place :=
  placesFrom x.position x.parent x.before x.node

/-- The places of a tree, in the order of the source text. -/
def Node.places (tree : Node) : List Place :=
  Place.below ⟨.root tree, []⟩

/-! ## Siblings -/

namespace Site

/-- The sites of siblings, one by one. -/
theorem getElem?_ofSiblings (parent : Node) (before ns : List Node) (i : Nat) :
    (ofSiblings parent before ns)[i]? =
      ns[i]?.map fun n => ⟨n, some parent, (ns.take i).reverse ++ before⟩ := by
  induction ns generalizing before i with
  | nil => rfl
  | cons n ns ih =>
    cases i with
    | zero => rfl
    | succ i => simp [ofSiblings, ih]

/-- A sibling, with all that is before it, is before each sibling to its right. -/
theorem pairwise_ofSiblings (parent : Node) (before ns : List Node) :
    (ofSiblings parent before ns).Pairwise fun s t => s.node :: s.before <:+ t.before := by
  induction ns generalizing before with
  | nil => exact .nil
  | cons n ns ih =>
    refine List.pairwise_cons.mpr ⟨fun t ht => ?_, ih (n :: before)⟩
    obtain ⟨i, hi⟩ := List.mem_iff_getElem?.mp ht
    rw [getElem?_ofSiblings, Option.map_eq_some_iff] at hi
    obtain ⟨m, -, rfl⟩ := hi
    exact List.suffix_append _ _

end Site

namespace Place

/-- The children of a place are at the sites of its node's children. -/
theorem map_toSite_children (x : Place) : x.children.map Place.toSite = x.toSite.children := by
  simp [children, Function.comp_def]

/-- The places of the children of a node, one by one. -/
theorem getElem?_children (x : Place) (i : Nat) :
    x.children[i]? = x.node.children[i]?.map fun n =>
      ⟨⟨n, some x.node, (x.node.children.take i).reverse⟩, i :: x.position⟩ := by
  rw [children, List.getElem?_map, Site.children, Site.getElem?_ofSiblings, Option.map_map]
  refine Option.map_congr fun n hn => ?_
  obtain ⟨hi, -⟩ := List.getElem?_eq_some_iff.mp hn
  simp [Nat.min_eq_left (Nat.le_of_lt hi)]

/-- The places of the children of a node are the sites at the positions below its own. -/
theorem mem_children_iff {x c : Place} :
    c ∈ x.children ↔ ∃ i n, x.node.children[i]? = some n ∧
      c = ⟨⟨n, some x.node, (x.node.children.take i).reverse⟩, i :: x.position⟩ := by
  simp only [List.mem_iff_getElem?, getElem?_children, Option.map_eq_some_iff, eq_comm (b := c)]

/-- The children of a place are those of its node. -/
theorem map_node_children (x : Place) : x.children.map (·.node) = x.node.children := by
  refine List.ext_getElem? fun i => ?_
  simp [getElem?_children, Function.comp_def]

/-- The parent of a child is the node that it is a child of. -/
theorem parent_of_mem_children {x c : Place} (h : c ∈ x.children) : c.parent = some x.node := by
  obtain ⟨i, n, -, rfl⟩ := mem_children_iff.mp h
  rfl

/-- The position of a child leads through that of its parent. -/
theorem position_of_mem_children {x c : Place} (h : c ∈ x.children) :
    c.position = c.before.length :: x.position := by
  obtain ⟨s, -, rfl⟩ := List.mem_map.mp h
  rfl

/-- A child, with all that is before it, is before each child to its right. -/
theorem pairwise_children (x : Place) :
    x.children.Pairwise fun c d => c.node :: c.before <:+ d.before := by
  rw [children, List.pairwise_map]
  exact Site.pairwise_ofSiblings _ _ _

variable {u x y : Place}

/-- The children of a place stand in order. -/
theorem pairwise_precedes_children (u : Place) :
    u.children.Pairwise fun c d => Precedes c.position d.position := by
  refine (pairwise_children u).imp_of_mem fun {c d} hc hd hbefore => ?_
  rw [position_of_mem_children hc, position_of_mem_children hd]
  exact precedes_cons_iff.mpr hbefore.length_le

/-- No child of a place is listed twice. -/
theorem nodup_children (u : Place) : u.children.Nodup :=
  (pairwise_precedes_children u).imp fun hprecedes heq => hprecedes.ne (congrArg position heq)

/-- A child comes after the siblings before it. -/
theorem before_of_mem_children (h : x ∈ u.children) :
    u.children[x.before.length]? = some x ∧
      x.before = (u.node.children.take x.before.length).reverse := by
  have hposition := position_of_mem_children h
  obtain ⟨i, n, hn, rfl⟩ := mem_children_iff.mp h
  rw [← (List.cons.inj hposition).1, getElem?_children, hn]
  exact ⟨rfl, rfl⟩

/-- A child stands between the siblings before it and those after it. -/
theorem exists_children_eq_append (h : x ∈ u.children) :
    ∃ after, u.children = u.children.take x.before.length ++ x :: after := by
  obtain ⟨hlength, hx⟩ := List.getElem?_eq_some_iff.mp (before_of_mem_children h).1
  refine ⟨u.children.drop (x.before.length + 1), ?_⟩
  calc u.children = u.children.take x.before.length ++ u.children.drop x.before.length :=
        (List.take_append_drop _ _).symm
    _ = _ := by rw [List.drop_eq_getElem_cons hlength, hx]

/-- What relates earlier nodes to later ones relates children in their order. -/
theorem rel_of_precedes {R : Node → Node → Prop} (hR : u.node.children.Pairwise R)
    (hx : x ∈ u.children) (hy : y ∈ u.children) (h : Precedes x.position y.position) :
    R x.node y.node := by
  obtain ⟨after, hafter⟩ := exists_children_eq_append hy
  have hordered := pairwise_precedes_children u
  rw [← map_node_children, List.pairwise_map] at hR
  rw [hafter, List.pairwise_append] at hR hordered
  rw [hafter, List.mem_append, List.mem_cons] at hx
  obtain hx | rfl | hx := hx
  · exact hR.2.2 x hx y List.mem_cons_self
  · exact absurd rfl h.ne
  · exact absurd ((List.pairwise_cons.mp hordered.2.1).1 x hx) h.asymm

/-- Of two children the one that is not before the other is behind it. -/
theorem precedes_trichotomy (hx : x ∈ u.children) (hy : y ∈ u.children) :
    Precedes x.position y.position ∨ x = y ∨ Precedes y.position x.position := by
  rw [position_of_mem_children hx, position_of_mem_children hy, precedes_cons_iff,
    precedes_cons_iff]
  obtain hlt | heq | hlt := Nat.lt_trichotomy x.before.length y.before.length
  · exact .inl hlt
  · have hsame := (before_of_mem_children hy).1
    rw [← heq, (before_of_mem_children hx).1] at hsame
    exact .inr (.inl (Option.some.inj hsame))
  · exact .inr (.inr hlt)

/-- What holds of a place if it holds of its children holds of every place. -/
@[elab_as_elim]
theorem induction {motive : Place → Prop} (step : ∀ x, (∀ c ∈ x.children, motive c) → motive x)
    (x : Place) : motive x := by
  obtain ⟨⟨n, parent, before⟩, p⟩ := x
  induction n using Node.induction generalizing parent before p with
  | step n ih =>
    refine step _ fun c hc => ?_
    obtain ⟨i, m, hm, rfl⟩ := mem_children_iff.mp hc
    exact ih m (List.mem_of_getElem? hm) _ _ _

end Place

/-! ## The list of places -/

/-- The places at and below siblings are listed sibling by sibling. -/
theorem placesAmong_eq (p : Position) (parent : Node) (before ns : List Node) :
    placesAmong p parent before ns =
      ((Site.ofSiblings parent before ns).map fun s =>
        (⟨s, s.before.length :: p⟩ : Place)).flatMap Place.below := by
  induction ns generalizing before with
  | nil => rfl
  | cons n ns ih =>
    rw [placesAmong, ih, Site.ofSiblings, List.map_cons, List.flatMap_cons]
    rfl

namespace Place

/-- A place comes before those at and below its children. -/
theorem below_eq (x : Place) : x.below = x :: x.children.flatMap below := by
  obtain ⟨⟨⟨kind, slot, row, text, children⟩, parent, before⟩, p⟩ := x
  rw [below, placesFrom, placesAmong_eq]
  rfl

/-- A place is among those at and below it. -/
theorem mem_below (x : Place) : x ∈ x.below := by
  rw [below_eq]
  exact List.mem_cons_self

/-- The positions at and below a place lead through it. -/
theorem exists_position_eq {x y : Place} (h : y ∈ x.below) :
    ∃ r, y.position = r ++ x.position := by
  induction x using Place.induction with
  | step x ih =>
    rw [below_eq, List.mem_cons, List.mem_flatMap] at h
    obtain rfl | ⟨c, hc, hy⟩ := h
    · exact ⟨[], rfl⟩
    · obtain ⟨r, hr⟩ := ih c hc hy
      rw [position_of_mem_children hc] at hr
      exact ⟨r ++ [c.before.length], by simpa using hr⟩

/-- The children of a place at or below `x` are below `x`. -/
theorem mem_below_of_mem_children {x y z : Place} (hy : y ∈ x.below) (hz : z ∈ y.children) :
    z ∈ x.below := by
  induction x using Place.induction with
  | step x ih =>
    rw [below_eq, List.mem_cons, List.mem_flatMap] at hy
    rw [below_eq, List.mem_cons, List.mem_flatMap]
    obtain rfl | ⟨c, hc, hy⟩ := hy
    · exact .inr ⟨z, hz, z.mem_below⟩
    · exact .inr ⟨c, hc, ih c hc hy⟩

/-- The places at and below a place ascend in the order of the source text. -/
theorem pairwise_below (x : Place) :
    x.below.Pairwise fun y z => Precedes y.position z.position := by
  induction x using Place.induction with
  | step x ih =>
    rw [below_eq, List.pairwise_cons, List.pairwise_flatMap]
    refine ⟨fun y hy => ?_, ih, (pairwise_children x).imp_of_mem ?_⟩
    · obtain ⟨c, hc, hy⟩ := List.mem_flatMap.mp hy
      obtain ⟨r, hr⟩ := exists_position_eq hy
      rw [hr, position_of_mem_children hc]
      exact precedes_below _ _ _
    · intro c d hc hd hbefore y hy z hz
      obtain ⟨r, hr⟩ := exists_position_eq hy
      obtain ⟨s, hs⟩ := exists_position_eq hz
      rw [hr, hs, position_of_mem_children hc, position_of_mem_children hd]
      exact precedes_of_lt hbefore.length_le _ _ _

/-- The places at and below those of a stack are as many as its nodes, if those of each are. -/
theorem length_flatMap_below {xs : List Place} (h : ∀ x ∈ xs, x.below.length = x.node.size) :
    (xs.flatMap below).length = Site.stackSize (xs.map Place.toSite) := by
  induction xs with
  | nil => rfl
  | cons x xs ih =>
    obtain ⟨hx, hxs⟩ := List.forall_mem_cons.mp h
    rw [List.flatMap_cons, List.length_append, List.map_cons, Site.stackSize, hx, ih hxs]

/-- The places at and below a place are as many as its nodes. -/
theorem length_below (x : Place) : x.below.length = x.node.size := by
  induction x using Place.induction with
  | step x ih =>
    rw [below_eq, List.length_cons, length_flatMap_below ih, map_toSite_children]
    exact Site.stackSize_children x.toSite

end Place

namespace Node

variable {tree : Node}

/-- The places of a tree are the sites at its positions. -/
theorem siteAt?_of_mem_below {x y : Place} (hx : tree.siteAt? x.position = some x.toSite)
    (hy : y ∈ x.below) : tree.siteAt? y.position = some y.toSite := by
  induction x using Place.induction with
  | step x ih =>
    rw [Place.below_eq, List.mem_cons, List.mem_flatMap] at hy
    obtain rfl | ⟨c, hc, hy⟩ := hy
    · exact hx
    · refine ih c hc ?_ hy
      obtain ⟨i, n, hn, rfl⟩ := Place.mem_children_iff.mp hc
      rw [siteAt?, at?_of_siteAt? hx, Option.bind_some, hn, Option.map_some]

/-- The sites at the positions of a tree are listed. -/
theorem mem_places_of_siteAt? {p : Position} {s : Site} (h : tree.siteAt? p = some s) :
    ⟨s, p⟩ ∈ tree.places := by
  induction p generalizing s with
  | nil =>
    obtain rfl : Site.root tree = s := Option.some.inj h
    exact Place.mem_below _
  | cons i p ih =>
    obtain ⟨parent, hparent, h⟩ := Option.bind_eq_some_iff.mp h
    obtain ⟨n, hn, rfl⟩ := Option.map_eq_some_iff.mp h
    rw [← map_node_siteAt?, Option.map_eq_some_iff] at hparent
    obtain ⟨s, hs, rfl⟩ := hparent
    exact Place.mem_below_of_mem_children (ih hs) (Place.mem_children_iff.mpr ⟨i, n, hn, rfl⟩)

/-- The places of a tree are the sites at its positions. -/
theorem mem_places_iff {x : Place} : x ∈ tree.places ↔ tree.siteAt? x.position = some x.toSite :=
  ⟨siteAt?_of_mem_below rfl, mem_places_of_siteAt?⟩

/-- A position leads to one place. -/
theorem eq_of_position_eq {x y : Place} (hx : x ∈ tree.places)
    (hy : y ∈ tree.places) (h : x.position = y.position) : x = y := by
  rw [Node.mem_places_iff] at hx hy
  obtain ⟨s, p⟩ := x
  obtain ⟨t, q⟩ := y
  obtain rfl : p = q := h
  obtain rfl : s = t := Option.some.inj (hx.symm.trans hy)
  rfl

/-- No place of a tree is listed twice. -/
theorem nodup_places (tree : Node) : tree.places.Nodup :=
  (Place.pairwise_below _).imp fun hprecedes heq => hprecedes.ne (congrArg Place.position heq)

end Node

namespace Place

variable {tree : Node} {u v x : Place}

/-- A place is a child of one place. -/
theorem eq_of_mem_children (hu : u ∈ tree.places) (hv : v ∈ tree.places) (h : x ∈ u.children)
    (h' : x ∈ v.children) : u = v := by
  refine Node.eq_of_position_eq hu hv ?_
  have hpositions := (position_of_mem_children h).symm.trans (position_of_mem_children h')
  exact (List.cons.inj hpositions).2

/-- A place is that of the root or of a child. -/
theorem eq_root_or_exists_parent (h : x ∈ tree.places) :
    x = ⟨.root tree, []⟩ ∨ ∃ u ∈ tree.places, x ∈ u.children := by
  obtain ⟨s, p⟩ := x
  rw [Node.mem_places_iff] at h
  cases p with
  | nil =>
    obtain rfl : Site.root tree = s := Option.some.inj h
    exact .inl rfl
  | cons i p =>
    obtain ⟨parent, hparent, h⟩ := Option.bind_eq_some_iff.mp h
    obtain ⟨n, hn, rfl⟩ := Option.map_eq_some_iff.mp h
    rw [← Node.map_node_siteAt?, Option.map_eq_some_iff] at hparent
    obtain ⟨t, ht, rfl⟩ := hparent
    exact .inr ⟨⟨t, p⟩, Node.mem_places_of_siteAt? ht, mem_children_iff.mpr ⟨i, n, hn, rfl⟩⟩

/-- A child of a place of the tree is a place of the tree. -/
theorem mem_places_of_mem_children (hu : u ∈ tree.places) (h : x ∈ u.children) :
    x ∈ tree.places :=
  mem_below_of_mem_children hu h

end Place

/-! ## The visit -/

namespace Site

/-- A visit goes through the places at and below those on its stack, one after another. -/
theorem visitFrom_map_toSite (visited : List Site) (xs : List Place) :
    visitFrom visited (xs.map Place.toSite) =
      visited.reverse ++ (xs.flatMap Place.below).map Place.toSite := by
  generalize hstack : xs.map Place.toSite = stack
  fun_induction visitFrom visited stack generalizing xs with
  | case1 visited =>
    obtain rfl := List.map_eq_nil_iff.mp hstack
    simp
  | case2 visited s stack ih =>
    obtain ⟨x, xs, rfl, rfl, rfl⟩ := List.map_eq_cons_iff.mp hstack
    rw [ih (x.children ++ xs) (by rw [List.map_append, Place.map_toSite_children]),
      List.flatMap_cons, Place.below_eq, List.flatMap_append]
    simp

/-- A visit goes through the places of a tree in the order of the source text. -/
theorem visit_eq_map_places (tree : Node) : visit tree = tree.places.map Place.toSite := by
  have h := visitFrom_map_toSite [] [⟨root tree, []⟩]
  simpa [visit, Node.places] using h

/-- The sites of a kind are those among the places of a tree, in the order of the source text. -/
theorem ofKind_eq_map_places (wanted : Kind → Bool) (tree : Node) :
    ofKind wanted tree = (tree.places.filter fun x => wanted x.node.kind).map Place.toSite := by
  rw [ofKind, visit_eq_map_places, List.filter_map]
  rfl

/-- The visit of a tree is its recursive pre-order: it meets the sites at all positions and no
others, each once and in the order of the source text, so it takes as many steps as the tree has
nodes; and the sites of a kind are exactly those among them, in the same order. -/
theorem visit_in_preorder (tree : Node) :
    visit tree = tree.places.map Place.toSite ∧
      (∀ x, x ∈ tree.places ↔ tree.siteAt? x.position = some x.toSite) ∧
      (tree.places.Pairwise fun x y => Precedes x.position y.position) ∧
      (tree.places.map Place.position).Nodup ∧
      (visit tree).length = tree.size ∧
      ∀ wanted, ofKind wanted tree =
        (tree.places.filter fun x => wanted x.node.kind).map Place.toSite := by
  have hvisit := visit_eq_map_places tree
  have hpairwise : tree.places.Pairwise fun x y => Precedes x.position y.position :=
    Place.pairwise_below _
  refine ⟨hvisit, fun _ => Node.mem_places_iff, hpairwise, ?_, ?_,
    fun _ => ofKind_eq_map_places _ _⟩
  · exact List.pairwise_map.mpr (hpairwise.imp Precedes.ne)
  · rw [hvisit, List.length_map]
    exact Place.length_below _

end Site

end ModuleLint.Syntax
