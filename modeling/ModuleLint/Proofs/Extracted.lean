import Mathlib.Data.List.Forall2
import Mathlib.Data.List.Nodup
import ModuleLint.Extraction
import ModuleLint.Proofs.Places

/-!
# Where declarations are read off

The classes of a tree stand wherever a class stands, the members of a class among the children of
its body, and the parameters of a method among the children of its parameter list. Listed in this
order, each class before its members and each member before its parameters, the declarations of a
file and the places they are read off correspond one to one.
-/

namespace ModuleLint

open Syntax

/-- All declarations of a file: each class before its members, each member before its
parameters. -/
def ParsedFile.declarations (file : ParsedFile) : List Declaration :=
  file.classes.flatMap fun c => c :: c.members.flatMap fun m => m :: m.parameters

namespace Syntax

/-- Lists put together have no repetition if what is in one of them tells which one it is. -/
theorem nodup_flatMap_of_injective {α β : Type} {xs : List α} {f : α → List β} (hxs : xs.Nodup)
    (hf : ∀ x ∈ xs, (f x).Nodup)
    (hinj : ∀ x ∈ xs, ∀ x' ∈ xs, ∀ y ∈ f x, y ∈ f x' → x = x') : (xs.flatMap f).Nodup := by
  refine List.nodup_flatMap.mpr ⟨hf, hxs.imp_of_mem fun {x x'} hx hx' hne y hy hy' => ?_⟩
  exact hne (hinj x hx x' hx' y hy hy')

/-- Owners, each before what it owns, are listed without repetition. -/
theorem nodup_flatMap_cons {α : Type} {xs : List α} {f : α → List α} (hxs : xs.Nodup)
    (hf : ∀ x ∈ xs, (f x).Nodup) (hself : ∀ x ∈ xs, ∀ y ∈ f x, y ∉ xs)
    (hinj : ∀ x ∈ xs, ∀ x' ∈ xs, ∀ y ∈ f x, y ∈ f x' → x = x') :
    (xs.flatMap fun x => x :: f x).Nodup := by
  refine nodup_flatMap_of_injective hxs
    (fun x hx => List.nodup_cons.mpr ⟨fun h => hself x hx x h hx, hf x hx⟩) ?_
  intro x hx x' hx' y hy hy'
  obtain rfl | hy := List.mem_cons.mp hy
  · obtain rfl | hy' := List.mem_cons.mp hy'
    · rfl
    · exact absurd hx (hself x' hx' y hy')
  · obtain rfl | hy' := List.mem_cons.mp hy'
    · exact absurd hx' (hself x hx y hy)
    · exact hinj x hx x' hx' y hy hy'

namespace Place

/-- The place of the child that plays the given part. -/
def child? (x : Place) (slot : Slot) : Option Place :=
  x.children.find? fun c => c.node.slot == some slot

/-- The places of the members of a class. -/
def members (x : Place) : List Place :=
  ((x.child? .body).map fun body =>
    body.children.filter fun c => (Extraction.memberKind? c.node).isSome).getD []

/-- The places of the parameters of a member, if it is a method. -/
def parameters (x : Place) : List Place :=
  if Extraction.memberKind? x.node = some .method then
    ((x.child? .parameters).map fun list =>
      list.children.filter fun c => Extraction.isParameter c.node).getD []
  else []

/-- The child that plays a part stands where that part is played. -/
theorem map_node_child? (x : Place) (slot : Slot) :
    (x.child? slot).map (·.node) = x.node.child? slot := by
  rw [Node.child?, ← map_node_children, List.find?_map]
  rfl

variable {u x y : Place}

/-- The child that plays a part is a child. -/
theorem mem_children_of_child? {slot : Slot} (h : x.child? slot = some y) : y ∈ x.children :=
  List.mem_of_find?_eq_some h

/-- The members of a class are children of its body. -/
theorem mem_members (h : x ∈ u.members) :
    (Extraction.memberKind? x.node).isSome ∧ ∃ body ∈ u.children, x ∈ body.children := by
  rw [members] at h
  cases hbody : u.child? .body with
  | none => simp [hbody] at h
  | some body =>
    rw [hbody, Option.map_some, Option.getD_some, List.mem_filter] at h
    exact ⟨h.2, body, mem_children_of_child? hbody, h.1⟩

/-- The parameters of a method are children of its list of parameters. -/
theorem mem_parameters (h : x ∈ u.parameters) :
    Extraction.isParameter x.node ∧ ∃ list ∈ u.children, x ∈ list.children := by
  rw [parameters] at h
  split at h
  · cases hlist : u.child? .parameters with
    | none => simp [hlist] at h
    | some list =>
      rw [hlist, Option.map_some, Option.getD_some, List.mem_filter] at h
      exact ⟨h.2, list, mem_children_of_child? hlist, h.1⟩
  · exact absurd h List.not_mem_nil

/-- No member of a class is listed twice. -/
theorem nodup_members (u : Place) : u.members.Nodup := by
  rw [members]
  cases u.child? .body with
  | none => exact .nil
  | some body => exact body.nodup_children.filter _

/-- No parameter of a member is listed twice. -/
theorem nodup_parameters (u : Place) : u.parameters.Nodup := by
  rw [parameters]
  split
  · cases u.child? .parameters with
    | none => exact .nil
    | some list => exact list.nodup_children.filter _
  · exact .nil

end Place

/-- The places of all that is declared in a tree: each class before its members, each member
before its parameters. -/
def Node.declared (tree : Node) : List Place :=
  (tree.places.filter fun x => x.node.kind.isClass).flatMap fun c =>
    c :: c.members.flatMap fun m => m :: m.parameters

namespace Node

variable {tree n : Node} {x : Place}

/-- Whether a node declares a class, a member or a parameter. -/
def declares (n : Node) : Bool :=
  n.kind.isClass || (Extraction.memberKind? n).isSome || Extraction.isParameter n

/-- What declares something is neither a decorator nor a comment, and neither an export statement
nor a class body. -/
theorem kind_ne_of_declares (h : n.declares) :
    n.isDecorator = false ∧ n.isComment = false ∧ n.kind ≠ .exportStatement ∧
      n.kind ≠ .classBody := by
  cases hkind : n.kind <;>
    simp [declares, Extraction.memberKind?, Extraction.isParameter, Kind.isClass, isDecorator,
      isComment, hkind] at h ⊢

/-- A member is no class. -/
theorem isClass_eq_false_of_isSome_memberKind? (h : (Extraction.memberKind? n).isSome) :
    n.kind.isClass = false := by
  cases hkind : n.kind <;> simp [Extraction.memberKind?, Kind.isClass, hkind] at h ⊢

/-- A parameter is neither a class nor a member. -/
theorem eq_false_of_isParameter (h : Extraction.isParameter n) :
    n.kind.isClass = false ∧ (Extraction.memberKind? n).isSome = false := by
  cases hkind : n.kind <;>
    simp [Extraction.memberKind?, Extraction.isParameter, Kind.isClass, hkind] at h ⊢

end Node

namespace Place

variable {tree : Node} {c c' m m' x : Place}

/-- Places of the tree are the same if a child of their children is. -/
theorem eq_of_mem_children_children {body body' : Place} (hc : c ∈ tree.places)
    (hc' : c' ∈ tree.places) (hbody : body ∈ c.children) (hbody' : body' ∈ c'.children)
    (hx : x ∈ body.children) (hx' : x ∈ body'.children) : c = c' := by
  obtain rfl := eq_of_mem_children (mem_places_of_mem_children hc hbody)
    (mem_places_of_mem_children hc' hbody') hx hx'
  exact eq_of_mem_children hc hc' hbody hbody'

/-- A member belongs to one class. -/
theorem eq_of_mem_members (hc : c ∈ tree.places) (hc' : c' ∈ tree.places) (h : m ∈ c.members)
    (h' : m ∈ c'.members) : c = c' := by
  obtain ⟨-, body, hbody, hm⟩ := mem_members h
  obtain ⟨-, body', hbody', hm'⟩ := mem_members h'
  exact eq_of_mem_children_children hc hc' hbody hbody' hm hm'

/-- A parameter belongs to one member. -/
theorem eq_of_mem_parameters (hm : m ∈ tree.places) (hm' : m' ∈ tree.places)
    (h : x ∈ m.parameters) (h' : x ∈ m'.parameters) : m = m' := by
  obtain ⟨-, list, hlist, hx⟩ := mem_parameters h
  obtain ⟨-, list', hlist', hx'⟩ := mem_parameters h'
  exact eq_of_mem_children_children hm hm' hlist hlist' hx hx'

/-- Members are places of the tree. -/
theorem mem_places_of_mem_members (hc : c ∈ tree.places) (h : m ∈ c.members) :
    m ∈ tree.places := by
  obtain ⟨-, body, hbody, hm⟩ := mem_members h
  exact mem_places_of_mem_children (mem_places_of_mem_children hc hbody) hm

/-- Parameters are places of the tree. -/
theorem mem_places_of_mem_parameters (hm : m ∈ tree.places) (h : x ∈ m.parameters) :
    x ∈ tree.places := by
  obtain ⟨-, list, hlist, hx⟩ := mem_parameters h
  exact mem_places_of_mem_children (mem_places_of_mem_children hm hlist) hx

/-- The members of a class with their parameters. -/
theorem mem_flatMap_members (h : x ∈ c.members.flatMap fun m => m :: m.parameters) :
    x ∈ c.members ∨ ∃ m ∈ c.members, x ∈ m.parameters := by
  obtain ⟨m, hm, hx⟩ := List.mem_flatMap.mp h
  obtain rfl | hx := List.mem_cons.mp hx
  · exact .inl hm
  · exact .inr ⟨m, hm, hx⟩

/-- No member or parameter of a class is listed twice. -/
theorem nodup_flatMap_members (hc : c ∈ tree.places) :
    (c.members.flatMap fun m => m :: m.parameters).Nodup := by
  refine nodup_flatMap_cons c.nodup_members (fun m _ => m.nodup_parameters) ?_ ?_
  · intro m _ x hx hmember
    have hparameter := (Node.eq_false_of_isParameter (mem_parameters hx).1).2
    exact Bool.false_ne_true (hparameter.symm.trans (mem_members hmember).1)
  · intro m hm m' hm' x hx hx'
    exact eq_of_mem_parameters (mem_places_of_mem_members hc hm) (mem_places_of_mem_members hc hm')
      hx hx'

/-- What is declared in a class belongs to one class. -/
theorem eq_of_mem_flatMap_members (hc : c ∈ tree.places) (hc' : c' ∈ tree.places)
    (h : x ∈ c.members.flatMap fun m => m :: m.parameters)
    (h' : x ∈ c'.members.flatMap fun m => m :: m.parameters) : c = c' := by
  have hdisjoint {m m' : Place} (hx : x ∈ m.members) (hx' : x ∈ m'.parameters) : False := by
    have hparameter := (Node.eq_false_of_isParameter (mem_parameters hx').1).2
    exact Bool.false_ne_true (hparameter.symm.trans (mem_members hx).1)
  obtain hx | ⟨m, hm, hx⟩ := mem_flatMap_members h <;>
    obtain hx' | ⟨m', hm', hx'⟩ := mem_flatMap_members h'
  · exact eq_of_mem_members hc hc' hx hx'
  · exact (hdisjoint hx hx').elim
  · exact (hdisjoint hx' hx).elim
  · obtain rfl := eq_of_mem_parameters (mem_places_of_mem_members hc hm)
      (mem_places_of_mem_members hc' hm') hx hx'
    exact eq_of_mem_members hc hc' hm hm'

end Place

namespace Node

variable {tree : Node} {x : Place}

/-- What is declared in a tree stands in it and declares something. -/
theorem mem_declared (h : x ∈ tree.declared) : x ∈ tree.places ∧ x.node.declares := by
  obtain ⟨c, hc, hx⟩ := List.mem_flatMap.mp h
  obtain ⟨hc, hclass⟩ := List.mem_filter.mp hc
  obtain rfl | hx := List.mem_cons.mp hx
  · exact ⟨hc, by simp [declares, hclass]⟩
  · obtain hx | ⟨m, hm, hx⟩ := Place.mem_flatMap_members hx
    · exact ⟨Place.mem_places_of_mem_members hc hx, by simp [declares, (Place.mem_members hx).1]⟩
    · exact ⟨Place.mem_places_of_mem_parameters (Place.mem_places_of_mem_members hc hm) hx,
        by simp [declares, (Place.mem_parameters hx).1]⟩

/-- Nothing is declared twice. -/
theorem nodup_declared (tree : Node) : tree.declared.Nodup := by
  refine nodup_flatMap_cons (tree.nodup_places.filter _) (fun c hc => ?_)
    (fun c _ x hx hclass => ?_) fun c hc c' hc' x => ?_
  · exact Place.nodup_flatMap_members (List.mem_of_mem_filter hc)
  · have hnot : x.node.kind.isClass = false := by
      obtain hx | ⟨m, -, hx⟩ := Place.mem_flatMap_members hx
      · exact isClass_eq_false_of_isSome_memberKind? (Place.mem_members hx).1
      · exact (eq_false_of_isParameter (Place.mem_parameters hx).1).1
    exact Bool.false_ne_true (hnot.symm.trans (List.mem_filter.mp hclass).2)
  · exact Place.eq_of_mem_flatMap_members (List.mem_of_mem_filter hc) (List.mem_of_mem_filter hc')

end Node

end Syntax

namespace Extraction

/-- A declaration is read off a site: its decorators are those of the site, and its line is the
first line of the node and of these. -/
structure IsReadFrom (s : Site) (d : Declaration) : Prop where
  decorators_eq : d.decorators = decoratorsOf s
  line_eq : d.line = firstLine s.node d.decorators

/-- A declaration is read off a place as a member. -/
def IsMember (x : Place) (d : Declaration) : Prop :=
  ∃ kind, memberKind? x.node = some kind ∧ d = memberOf x.toSite kind

/-- What is read off the children of a place is read off their sites. -/
theorem children_root_node (x : Place) :
    (Site.root x.node).children = x.children.map Place.toSite :=
  x.map_toSite_children.symm

/-- The members of a class body are read off those of its children that declare one. -/
theorem forall₂_membersOf (body : Place) :
    List.Forall₂ IsMember (body.children.filter fun c => (memberKind? c.node).isSome)
      (membersOf body.node) := by
  rw [membersOf, childSites, children_root_node, List.filterMap_filter, List.filterMap_map]
  induction body.children with
  | nil => exact .nil
  | cons c cs ih =>
    cases hkind : memberKind? c.node with
    | none => simpa [hkind] using ih
    | some kind =>
      have hnamed : c.node.isNamed = true := by
        cases hc : c.node.kind <;> simp [memberKind?, hc, Node.isNamed] at hkind ⊢
      have hmember : IsMember c (memberOf c.toSite kind) := ⟨kind, hkind, rfl⟩
      simpa [hkind, hnamed] using List.Forall₂.cons hmember ih

/-- The members of a class are read off their places. -/
theorem forall₂_members (x : Place) :
    List.Forall₂ IsMember x.members (classOf x.toSite).members := by
  have hbody := x.map_node_child? .body
  rw [Place.members]
  simp only [classOf, ← hbody]
  cases x.child? .body with
  | none => exact .nil
  | some body => exact forall₂_membersOf body

/-- The parameters of a method are read off those children of its list that declare one. -/
theorem filter_childSites_node (list : Place) :
    ((childSites list.node).filter fun s => isParameter s.node) =
      (list.children.filter fun c => isParameter c.node).map Place.toSite := by
  rw [childSites, children_root_node, List.filter_filter, List.filter_map]
  congr 1
  refine List.filter_congr fun c _ => ?_
  cases hc : c.node.kind <;> simp [isParameter, Node.isNamed, hc]

/-- The parameters of a member are read off their places. -/
theorem forall₂_parameters {x : Place} {d : Declaration} (h : IsMember x d) :
    List.Forall₂ (fun x d => d = parameterOf x.toSite) x.parameters d.parameters := by
  obtain ⟨kind, hkind, rfl⟩ := h
  have hlist := x.map_node_child? .parameters
  simp only [Place.parameters, memberOf, hkind, Option.some.injEq]
  split
  · simp only [parametersOf, ← hlist]
    cases x.child? .parameters with
    | none => exact .nil
    | some list =>
      have hsites := filter_childSites_node list
      simp only [Option.map_some, hsites, List.map_map, Option.getD_some,
        List.forall₂_map_right_iff, List.forall₂_same]
      exact fun _ _ => rfl
  · exact .nil

/-- A class is read off its site. -/
theorem isReadFrom_classOf (s : Site) : IsReadFrom s (classOf s) := ⟨rfl, rfl⟩

/-- A member is read off its site. -/
theorem IsMember.isReadFrom {x : Place} {d : Declaration} (h : IsMember x d) :
    IsReadFrom x.toSite d := by
  obtain ⟨kind, -, rfl⟩ := h
  exact ⟨rfl, rfl⟩

/-- The declarations of a tree are read off the places of what it declares, one by one. -/
theorem forall₂_declarations (path : String) (tree : Node) :
    List.Forall₂ (fun x d => IsReadFrom x.toSite d) tree.declared
      (parsedFileOf path tree).declarations := by
  rw [Node.declared, ParsedFile.declarations, parsedFileOf, Site.ofKind_eq_map_places,
    List.map_map, List.flatMap_map]
  refine List.rel_flatMap (List.forall₂_same.mpr fun x _ => rfl) ?_
  rintro c _ rfl
  refine .cons (isReadFrom_classOf c.toSite) (List.rel_flatMap (forall₂_members c) fun m d hm => ?_)
  refine .cons hm.isReadFrom ((forall₂_parameters hm).imp ?_)
  rintro p _ rfl
  exact ⟨rfl, rfl⟩

end Extraction

end ModuleLint
