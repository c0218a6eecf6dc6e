import Mathlib.Data.List.Forall2
import ModuleLint.Proofs.Extracted

/-!
# Comments say nothing

Comments may stand anywhere among the children of a node, so every reader of children passes over
them in a way of its own. Putting comments into a tree, wherever it be, leaves all that is read off
it as it was: the readers tell nodes by their kinds and parts, and these a comment does not share.
-/

namespace ModuleLint

namespace Syntax

/-- A comment that plays no part in its parent and has nothing in it. -/
structure Node.IsBareComment (n : Node) : Prop where
  kind_eq : n.kind = .comment
  slot_eq : n.slot = none
  children_eq : n.children = []

/-- A list of nodes becomes another one in which bare comments are put in, and all other nodes are
related to what they were. -/
inductive Spliced (R : Node → Node → Prop) : List Node → List Node → Prop
  | nil : Spliced R [] []
  | keep {n m : Node} {ns ms : List Node} (related : R n m) (rest : Spliced R ns ms) :
      Spliced R (n :: ns) (m :: ms)
  | comment {c : Node} {ns ms : List Node} (bare : c.IsBareComment) (rest : Spliced R ns ms) :
      Spliced R ns (c :: ms)

/-- A tree becomes another one by bare comments that are put in among the children of its nodes.
All other nodes keep their kind, part, row and text. -/
inductive Node.Commented : Node → Node → Prop
  | intro {kind : Kind} {slot : Option Slot} {row : Nat} {text : String} {ns ms : List Node}
      (children : Spliced Commented ns ms) :
      Commented ⟨kind, slot, row, text, ns⟩ ⟨kind, slot, row, text, ms⟩

namespace Spliced

variable {R : Node → Node → Prop} {ns ms : List Node}

/-- Related nodes may be related by less. -/
theorem imp_of_mem {S : Node → Node → Prop} (h : Spliced R ns ms)
    (hS : ∀ n ∈ ns, ∀ m, R n m → S n m) : Spliced S ns ms := by
  induction h with
  | nil => exact .nil
  | keep related _ ih =>
    obtain ⟨hn, hns⟩ := List.forall_mem_cons.mp hS
    exact .keep (hn _ related) (ih hns)
  | comment bare _ ih => exact .comment bare (ih hS)

/-- What a reader takes from a list of nodes stays the same, if it takes nothing from bare comments
and the same from related nodes. -/
theorem filterMap_eq {β : Type} {f : Node → Option β} (h : Spliced R ns ms)
    (hR : ∀ n m, R n m → f n = f m) (hcomment : ∀ c : Node, c.IsBareComment → f c = none) :
    ns.filterMap f = ms.filterMap f := by
  induction h with
  | nil => rfl
  | keep related _ ih => rw [List.filterMap_cons, List.filterMap_cons, hR _ _ related, ih]
  | comment bare _ ih => rw [List.filterMap_cons, hcomment _ bare, ih]

/-- A test that no bare comment passes selects related nodes. -/
theorem filter {p : Node → Bool} (h : Spliced R ns ms) (hR : ∀ n m, R n m → p n = p m)
    (hcomment : ∀ c : Node, c.IsBareComment → p c = false) :
    List.Forall₂ R (ns.filter p) (ms.filter p) := by
  induction h with
  | nil => exact .nil
  | @keep n m ns ms related _ ih =>
    have heq := hR n m related
    cases hp : p n with
    | false => simpa [hp, ← heq] using ih
    | true => simpa [hp, ← heq] using List.Forall₂.cons related ih
  | comment bare _ ih => simpa [hcomment _ bare] using ih

/-- As long as a test goes on that bare comments pass, related nodes are taken. -/
theorem takeWhile {p : Node → Bool} (h : Spliced R ns ms) (hR : ∀ n m, R n m → p n = p m)
    (hcomment : ∀ c : Node, c.IsBareComment → p c = true) :
    Spliced R (ns.takeWhile p) (ms.takeWhile p) := by
  induction h with
  | nil => exact .nil
  | @keep n m ns ms related _ ih =>
    have heq := hR n m related
    cases hp : p n with
    | false => simpa [hp, ← heq] using .nil
    | true => simpa [hp, ← heq] using Spliced.keep related ih
  | comment bare _ ih => simpa [hcomment _ bare] using Spliced.comment bare ih

end Spliced

/-- The first nodes of related lists are related. -/
theorem rel_head? {R : Node → Node → Prop} {ns ms : List Node} (h : List.Forall₂ R ns ms) :
    Option.Rel R ns.head? ms.head? := by
  cases h with
  | nil => exact .none
  | cons related _ => exact .some related

/-- The same is read off nodes that are related, if there are any. -/
theorem map_eq_of_rel {β : Type} {R : Node → Node → Prop} {f : Node → β} {n? m? : Option Node}
    (h : Option.Rel R n? m?) (hR : ∀ n m, R n m → f n = f m) : n?.map f = m?.map f := by
  cases h with
  | none => rfl
  | some related => rw [Option.map_some, Option.map_some, hR _ _ related]

/-- The same is read off nodes that are related, if it is read off any. -/
theorem bind_eq_of_rel {β : Type} {R : Node → Node → Prop} {f : Node → Option β}
    {n? m? : Option Node} (h : Option.Rel R n? m?) (hR : ∀ n m, R n m → f n = f m) :
    n?.bind f = m?.bind f := by
  cases h with
  | none => rfl
  | some related => rw [Option.bind_some, Option.bind_some, hR _ _ related]

/-- The same is read off related lists. -/
theorem map_eq_of_forall₂ {α β : Type} {R : α → α → Prop} {f : α → β} {xs ys : List α}
    (h : List.Forall₂ R xs ys) (hR : ∀ x y, R x y → f x = f y) : xs.map f = ys.map f := by
  induction h with
  | nil => rfl
  | cons related _ ih => rw [List.map_cons, List.map_cons, hR _ _ related, ih]

namespace Node

variable {n m : Node}

namespace Commented

theorem kind_eq (h : n.Commented m) : n.kind = m.kind := by
  cases h
  rfl

theorem slot_eq (h : n.Commented m) : n.slot = m.slot := by
  cases h
  rfl

theorem row_eq (h : n.Commented m) : n.row = m.row := by
  cases h
  rfl

theorem text_eq (h : n.Commented m) : n.text = m.text := by
  cases h
  rfl

theorem children (h : n.Commented m) : Spliced Commented n.children m.children := by
  cases h
  assumption

/-- A test of kinds that no comment passes selects the same children. -/
theorem filter_children (h : n.Commented m) (p : Kind → Bool) (hp : p .comment = false) :
    List.Forall₂ Commented (n.children.filter fun c => p c.kind)
      (m.children.filter fun c => p c.kind) :=
  h.children.filter (fun _ _ hc => by rw [hc.kind_eq]) fun c hc => by rw [hc.kind_eq, hp]

/-- The phrases below a node are the same. -/
theorem phrases (h : n.Commented m) : List.Forall₂ Commented n.phrases m.phrases := by
  have hphrases (n : Node) : n.phrases =
      n.children.filter fun c => c.kind != .comment && c.kind != .token := by
    rw [Node.phrases, namedChildren, List.filter_filter]
    rfl
  rw [hphrases, hphrases]
  exact h.filter_children (fun kind => kind != .comment && kind != .token) rfl

end Commented

/-- Children that play the same part are related as the children are. -/
theorem rel_child?_of_spliced {R : Node → Node → Prop} (h : Spliced R n.children m.children)
    (hR : ∀ n m, R n m → n.slot = m.slot) (slot : Slot) :
    Option.Rel R (n.child? slot) (m.child? slot) := by
  rw [child?, child?, ← List.head?_filter, ← List.head?_filter]
  refine rel_head? (h.filter (fun c d hcd => by rw [hR c d hcd]) fun c hc => ?_)
  rw [hc.slot_eq]
  rfl

/-- The same child plays a part. -/
theorem Commented.rel_child? (h : n.Commented m) (slot : Slot) :
    Option.Rel Commented (n.child? slot) (m.child? slot) :=
  rel_child?_of_spliced h.children (fun _ _ => Commented.slot_eq) slot

end Node

end Syntax

/-! ## Arguments -/

namespace Extraction

open Syntax

/-- The value of a pair is the argument that the child in this part gives. -/
theorem pairValue?_children (n : Node) :
    pairValue? n.children = (n.child? .value).map argumentOf := by
  rw [Node.child?]
  induction n.children with
  | nil => rfl
  | cons c cs ih =>
    rw [pairValue?, List.find?_cons, ih]
    by_cases hslot : c.slot = some .value
    · simp [hslot]
    · simp [beq_eq_false_iff_ne.mpr hslot, hslot]

/-- The property that a child of an object lists, if it is a pair. -/
def property? (n : Node) : Option (String × Argument) :=
  if n.kind = .pair then
    ((n.child? .key).bind nameOf?).bind fun name => (pairValue? n.children).map fun a => (name, a)
  else none

/-- The properties of an object are set one after another. -/
theorem propertiesOf_eq_foldl (before : List (String × Argument)) (ns : List Node) :
    propertiesOf before ns =
      (ns.filterMap property?).foldl (fun properties p => setProperty p.1 p.2 properties)
        before := by
  induction ns generalizing before with
  | nil => rfl
  | cons n ns ih =>
    obtain ⟨kind, slot, row, text, parts⟩ := n
    rw [propertiesOf, List.filterMap_cons, property?, Node.child?]
    by_cases hkind : kind = .pair
    · rw [if_pos hkind, if_pos hkind]
      cases (parts.find? fun c => c.slot == some .key).bind nameOf? with
      | none => exact ih before
      | some name =>
        cases pairValue? parts with
        | none => exact ih before
        | some a => exact ih _
    · rw [if_neg hkind, if_neg hkind]
      exact ih before

/-- Comments change nothing of a name. -/
theorem nameOf?_commented {n m : Node} (h : n.Commented m) : nameOf? n = nameOf? m := by
  rw [nameOf?, nameOf?, h.kind_eq, h.text_eq]

/-- Nodes that differ by comments give the same argument, and so do the values in them. -/
def GiveSame (n m : Node) : Prop :=
  n.Commented m ∧ argumentOf n = argumentOf m ∧ pairValue? n.children = pairValue? m.children

/-- Comments in an object change nothing of its properties. -/
theorem propertiesOf_spliced {ns ms : List Node} (h : Spliced GiveSame ns ms)
    (before : List (String × Argument)) : propertiesOf before ns = propertiesOf before ms := by
  rw [propertiesOf_eq_foldl, propertiesOf_eq_foldl, h.filterMap_eq]
  · rintro n m ⟨hnm, -, hvalue⟩
    rw [property?, property?, hnm.kind_eq, hvalue,
      bind_eq_of_rel (hnm.rel_child? .key) fun _ _ => nameOf?_commented]
  · intro c hc
    simp [property?, hc.kind_eq]

/-- Comments in an expression change nothing of the argument that it gives. An object reads the
values of its pairs, which are two steps below it, so these are kept along. -/
theorem giveSame_of_commented {n m : Node} (h : n.Commented m) : GiveSame n m := by
  induction n using Node.induction generalizing m with
  | step n ih =>
    have hchildren : Spliced GiveSame n.children m.children :=
      h.children.imp_of_mem fun c hc d hcd => ih c hc hcd
    have hvalue : pairValue? n.children = pairValue? m.children := by
      rw [pairValue?_children, pairValue?_children]
      exact map_eq_of_rel (Node.rel_child?_of_spliced hchildren (fun _ _ hs => hs.1.slot_eq) _)
        fun _ _ hs => hs.2.1
    have hbody := h.rel_child? .body
    refine ⟨h, ?_, hvalue⟩
    cases h with
    | @intro kind slot row text ns ms _ =>
      cases kind with
      | arrowFunction =>
        simp only [Node.child?] at hbody
        rw [argumentOf, argumentOf]
        generalize ns.find? _ = body?, ms.find? _ = body?' at hbody
        cases hbody with
        | none => rfl
        | some hbody => simp only [hbody.kind_eq, hbody.text_eq]
      | object => rw [argumentOf, argumentOf, propertiesOf_spliced hchildren]
      | _ => rfl

/-! ## Decorators -/

/-- Comments in a decorator change nothing of its expression. -/
theorem rel_decoratorExpression? {n m : Node} (h : n.Commented m) :
    Option.Rel Node.Commented n.decoratorExpression? m.decoratorExpression? :=
  rel_head? h.phrases

/-- Comments in a decorator change nothing of its name. -/
theorem decoratorName_commented {n m : Node} (h : n.Commented m) :
    n.decoratorName = m.decoratorName := by
  have hexpression := rel_decoratorExpression? h
  rw [Node.decoratorName, Node.decoratorName]
  generalize n.decoratorExpression? = e?, m.decoratorExpression? = e?' at hexpression
  cases hexpression with
  | none => rfl
  | @some e e' he =>
    have hcallee := he.rel_child? .callee
    simp only [he.kind_eq, he.text_eq]
    generalize e.child? .callee = f?, e'.child? .callee = f?' at hcallee
    cases hcallee with
    | none => rfl
    | some hf => simp only [hf.kind_eq, hf.text_eq]

/-- Comments in a decorator change nothing of its arguments. -/
theorem rel_decoratorArguments {n m : Node} (h : n.Commented m) :
    List.Forall₂ Node.Commented n.decoratorArguments m.decoratorArguments := by
  have hexpression := rel_decoratorExpression? h
  rw [Node.decoratorArguments, Node.decoratorArguments]
  generalize n.decoratorExpression? = e?, m.decoratorExpression? = e?' at hexpression
  cases hexpression with
  | none => exact .nil
  | @some e e' he =>
    have harguments := he.rel_child? .arguments
    simp only [he.kind_eq]
    split
    · generalize e.child? .arguments = list?, e'.child? .arguments = list?' at harguments
      cases harguments with
      | none => exact .nil
      | some hlist => exact hlist.phrases
    · exact .nil

/-- Comments in a decorator change nothing of it. -/
theorem decoratorOf_commented {n m : Node} (h : n.Commented m) :
    decoratorOf n = decoratorOf m := by
  rw [decoratorOf, decoratorOf, decoratorName_commented h, Node.line, Node.line, h.row_eq,
    map_eq_of_forall₂ (rel_decoratorArguments h) fun _ _ he => (giveSame_of_commented he).2.1]

end Extraction

/-! ## Sites -/

namespace Syntax

/-- A site stays where it is, but for comments in the trees at it and around it. -/
structure Site.Commented (s t : Site) : Prop where
  node : s.node.Commented t.node
  parent : Option.Rel Node.Commented s.parent t.parent
  before : Spliced Node.Commented s.before t.before

/-- The decorators that are children of a node are the same. -/
theorem Node.Commented.ownDecorators {n m : Node} (h : n.Commented m) :
    List.Forall₂ Node.Commented n.ownDecorators m.ownDecorators :=
  h.filter_children (fun kind => kind == .decorator) rfl

/-- The decorators directly before a place are the same, as comments are passed over. -/
theorem Spliced.decoratorsBefore {ns ms : List Node} (h : Spliced Node.Commented ns ms) :
    List.Forall₂ Node.Commented (decoratorsBefore ns) (decoratorsBefore ms) := by
  have htaken := h.takeWhile (p := fun n => n.isDecorator || n.isComment)
    (fun n m hnm => by simp only [Node.isDecorator, Node.isComment, hnm.kind_eq])
    (fun c hc => by simp [Node.isComment, hc.kind_eq])
  refine List.rel_reverse (htaken.filter (fun n m hnm => ?_) fun c hc => ?_)
  · simp only [Node.isDecorator, hnm.kind_eq]
  · simp [Node.isDecorator, hc.kind_eq]

namespace Site.Commented

variable {s t : Site}

/-- The decorators outside a node are the same. -/
theorem outerDecorators (h : s.Commented t) :
    List.Forall₂ Node.Commented s.outerDecorators t.outerDecorators := by
  have hparent := h.parent
  rw [Site.outerDecorators, Site.outerDecorators]
  generalize s.parent = parent?, t.parent = parent?' at hparent
  cases hparent with
  | none => exact .nil
  | some hparent =>
    simp only [hparent.kind_eq, h.node.kind_eq]
    split
    · exact hparent.ownDecorators
    · split
      · exact h.before.decoratorsBefore
      · exact .nil

/-- The decorators of a node are the same. -/
theorem decorators (h : s.Commented t) :
    List.Forall₂ Node.Commented s.decorators t.decorators :=
  List.rel_append h.outerDecorators h.node.ownDecorators

end Site.Commented

section Siblings

variable {β : Type} {f g : Site → List β} {parent parent' : Node} {before before' ns ms : List Node}

/-- What is read off siblings one by one stays the same, if nothing is read off bare comments. -/
theorem Spliced.flatMap_ofSiblings (h : Spliced Node.Commented ns ms)
    (hparent : parent.Commented parent') (hbefore : Spliced Node.Commented before before')
    (hread : ∀ s ∈ Site.ofSiblings parent before ns, ∀ t, s.Commented t → f s = g t)
    (hcomment : ∀ t : Site, t.node.IsBareComment → g t = []) :
    (Site.ofSiblings parent before ns).flatMap f =
      (Site.ofSiblings parent' before' ms).flatMap g := by
  induction h generalizing before before' with
  | nil => rfl
  | @keep n m ns ms hnm _ ih =>
    have hsite : (⟨n, some parent, before⟩ : Site).Commented ⟨m, some parent', before'⟩ :=
      ⟨hnm, .some hparent, hbefore⟩
    obtain ⟨hhead, hrest⟩ := List.forall_mem_cons.mp hread
    rw [Site.ofSiblings, Site.ofSiblings, List.flatMap_cons, List.flatMap_cons,
      ih (.keep hnm hbefore) hrest, hhead _ hsite]
  | @comment c ns ms hc _ ih =>
    rw [Site.ofSiblings.eq_def parent' before' (c :: ms), List.flatMap_cons,
      ← ih (.comment hc hbefore) hread, hcomment _ hc, List.nil_append]

end Siblings

/-- What is read off the children of a node stays the same. -/
theorem Node.Commented.filterMap_children {β : Type} {n m : Node} {f : Site → Option β}
    (h : n.Commented m) (hread : ∀ s t : Site, s.Commented t → f s = f t)
    (hcomment : ∀ t : Site, t.node.IsBareComment → f t = none) :
    (Site.root n).children.filterMap f = (Site.root m).children.filterMap f := by
  rw [List.filterMap_eq_flatMap_toList, List.filterMap_eq_flatMap_toList]
  refine h.children.flatMap_ofSiblings h .nil (fun s _ t hs => ?_) fun t ht => ?_
  · rw [hread s t hs]
  · rw [hcomment t ht, Option.toList_none]

/-- Nothing is below a bare comment. -/
theorem Place.below_of_isBareComment {x : Place} (h : x.node.IsBareComment) : x.below = [x] := by
  rw [Place.below_eq, Place.children, Site.children, h.children_eq]
  rfl

/-- What is read off the places at and below a place stays the same. -/
theorem Place.filterMap_below_commented {β : Type} {f : Site → Option β} {x y : Place}
    (h : x.toSite.Commented y.toSite) (hread : ∀ s t : Site, s.Commented t → f s = f t)
    (hcomment : ∀ t : Site, t.node.IsBareComment → f t = none) :
    x.below.filterMap (fun z => f z.toSite) = y.below.filterMap fun z => f z.toSite := by
  induction x using Place.induction generalizing y with
  | step x ih =>
    have hchildren : x.children.flatMap (fun c => c.below.filterMap fun z => f z.toSite) =
        y.children.flatMap fun c => c.below.filterMap fun z => f z.toSite := by
      rw [Place.children, Place.children, List.flatMap_map, List.flatMap_map]
      refine h.node.children.flatMap_ofSiblings h.node .nil (fun s hs t hst => ?_) fun t ht => ?_
      · exact ih _ (List.mem_map_of_mem hs) hst
      · rw [Place.below_of_isBareComment ht, List.filterMap_cons, hcomment t ht]
        rfl
    rw [Place.below_eq, Place.below_eq, List.filterMap_cons, List.filterMap_cons,
      List.filterMap_flatMap, List.filterMap_flatMap, hchildren, hread _ _ h]

/-- What is read off the sites of a tree stays the same. -/
theorem Node.Commented.filterMap_visit {β : Type} {n m : Node} {f : Site → Option β}
    (h : n.Commented m) (hread : ∀ s t : Site, s.Commented t → f s = f t)
    (hcomment : ∀ t : Site, t.node.IsBareComment → f t = none) :
    (Site.visit n).filterMap f = (Site.visit m).filterMap f := by
  rw [Site.visit_eq_map_places, Site.visit_eq_map_places, List.filterMap_map, List.filterMap_map]
  exact Place.filterMap_below_commented ⟨h, .none, .nil⟩ hread hcomment

end Syntax

/-! ## Declarations -/

namespace Extraction

open Syntax

variable {n m : Node} {s t : Site}

/-- Comments change nothing of the decorators of a place. -/
theorem decoratorsOf_commented (h : s.Commented t) : decoratorsOf s = decoratorsOf t :=
  map_eq_of_forall₂ h.decorators fun _ _ => decoratorOf_commented

/-- Comments change nothing of the first line of a declaration. -/
theorem firstLine_commented (h : n.Commented m) (decorators : List Decorator) :
    firstLine n decorators = firstLine m decorators := by
  rw [firstLine, firstLine, Node.line, Node.line, h.row_eq]

/-- Comments change nothing of the name that a declaration gives. -/
theorem declaredName_commented (h : n.Commented m) :
    (n.child? .name).bind nameOf? = (m.child? .name).bind nameOf? :=
  bind_eq_of_rel (h.rel_child? .name) fun _ _ => nameOf?_commented

/-- What is read off the named children of a node stays the same. -/
theorem filterMap_childSites_commented {β : Type} {f : Site → Option β} (h : n.Commented m)
    (hread : ∀ s t : Site, s.Commented t → f s = f t)
    (hcomment : ∀ t : Site, t.node.IsBareComment → f t = none) :
    (childSites n).filterMap f = (childSites m).filterMap f := by
  rw [childSites, childSites, List.filterMap_filter, List.filterMap_filter]
  refine h.filterMap_children (fun s t hs => ?_) fun t ht => ?_
  · rw [Node.isNamed, Node.isNamed, hs.node.kind_eq, hread s t hs]
  · rw [hcomment t ht, ite_self]

/-- Comments change nothing of a parameter. -/
theorem parameterOf_commented (h : s.Commented t) : parameterOf s = parameterOf t := by
  have hname := bind_eq_of_rel (f := fun p => if p.kind = .identifier then some p.text else none)
    (h.node.rel_child? .pattern) fun p q hpq => by rw [hpq.kind_eq, hpq.text_eq]
  simp only [parameterOf, decoratorsOf_commented h, firstLine_commented h.node, hname]

/-- Comments change nothing of the parameters of a method. -/
theorem parametersOf_commented (h : n.Commented m) : parametersOf n = parametersOf m := by
  have hparameters (list : Node) :
      ((childSites list).filter fun s => isParameter s.node).map parameterOf =
        (childSites list).filterMap fun s =>
          if isParameter s.node then some (parameterOf s) else none := by
    rw [← List.filterMap_eq_map, List.filterMap_filter]
    rfl
  have hlist := h.rel_child? .parameters
  rw [parametersOf, parametersOf]
  generalize n.child? .parameters = list?, m.child? .parameters = list?' at hlist
  cases hlist with
  | none => rfl
  | some hlist =>
    simp only [hparameters]
    refine filterMap_childSites_commented hlist (fun s t hs => ?_) fun t ht => ?_
    · rw [isParameter, isParameter, hs.node.kind_eq, parameterOf_commented hs]
    · rw [isParameter, ht.kind_eq]
      rfl

/-- Comments change nothing of a member. -/
theorem memberOf_commented (h : s.Commented t) (kind : DeclarationKind) :
    memberOf s kind = memberOf t kind := by
  simp only [memberOf, decoratorsOf_commented h, firstLine_commented h.node,
    declaredName_commented h.node, parametersOf_commented h.node]

/-- Comments in a class body change nothing of its members. -/
theorem membersOf_commented (h : n.Commented m) : membersOf n = membersOf m := by
  refine filterMap_childSites_commented h (fun s t hs => ?_) fun t ht => ?_
  · rw [memberKind?, memberKind?, hs.node.kind_eq, funext (memberOf_commented hs)]
  · rw [memberKind?, ht.kind_eq]
    rfl

/-- Comments change nothing of the class that a class extends. -/
theorem baseOf?_commented (h : n.Commented m) : baseOf? n = baseOf? m := by
  have hclauses : List.Forall₂ Node.Commented
      (((n.children.filter fun c => c.kind == .heritage).flatMap Node.namedChildren).filter
        fun c => c.kind == .extendsClause)
      (((m.children.filter fun c => c.kind == .heritage).flatMap Node.namedChildren).filter
        fun c => c.kind == .extendsClause) := by
    simp only [List.filter_flatMap, Node.namedChildren, List.filter_filter]
    refine List.rel_flatMap (h.filter_children (· == .heritage) rfl) fun c d hcd => ?_
    exact hcd.filter_children (fun kind => kind == .extendsClause && kind != .token) rfl
  simp only [baseOf?, ← List.head?_filter]
  refine map_eq_of_rel (rel_head? hclauses) fun c d hcd => ?_
  have hvalue := hcd.rel_child? .value
  rw [hcd.text_eq]
  generalize c.child? .value = value?, d.child? .value = value?' at hvalue
  cases hvalue with
  | none => rfl
  | some hvalue => exact hvalue.text_eq

/-- Comments change nothing of a class. -/
theorem classOf_commented (h : s.Commented t) : classOf s = classOf t := by
  have hmembers := map_eq_of_rel (f := membersOf) (h.node.rel_child? .body) fun _ _ =>
    membersOf_commented
  simp only [classOf, decoratorsOf_commented h, firstLine_commented h.node,
    declaredName_commented h.node, hmembers, baseOf?_commented h.node]

/-- Comments change nothing of a call. -/
theorem callOf?_commented (h : n.Commented m) : callOf? n = callOf? m := by
  have hcallee := h.rel_child? .callee
  rw [callOf?, callOf?, Node.line, Node.line, h.row_eq]
  generalize n.child? .callee = f?, m.child? .callee = f?' at hcallee
  cases hcallee with
  | none => rfl
  | @some f g hf =>
    have hobject := map_eq_of_rel (f := Node.text) (hf.rel_child? .object) fun _ _ hc => hc.text_eq
    have hproperty := hf.rel_child? .property
    simp only [hf.kind_eq, hobject]
    generalize f.child? .property = p?, g.child? .property = p?' at hproperty
    cases hproperty with
    | none => rfl
    | some hp => simp only [hp.text_eq]

/-- What is extracted from a tree stays the same when bare comments are put in among the children
of any of its nodes. -/
theorem parsedFileOf_commented {tree tree' : Node} (h : tree.Commented tree') (path : String) :
    parsedFileOf path tree = parsedFileOf path tree' := by
  have hclasses (tree : Node) : (Site.ofKind Kind.isClass tree).map classOf =
      (Site.visit tree).filterMap fun s =>
        if s.node.kind.isClass then some (classOf s) else none := by
    rw [Site.ofKind, ← List.filterMap_eq_map, List.filterMap_filter]
    rfl
  rw [parsedFileOf, parsedFileOf, hclasses, hclasses]
  congr 1
  · refine h.filterMap_visit (fun s t hs => ?_) fun t ht => ?_
    · rw [hs.node.kind_eq, classOf_commented hs]
    · rw [ht.kind_eq]
      rfl
  · rw [Site.ofKind, Site.ofKind, List.filterMap_filter, List.filterMap_filter]
    refine h.filterMap_visit (fun s t hs => ?_) fun t ht => ?_
    · rw [hs.node.kind_eq, callOf?_commented hs.node]
    · rw [ht.kind_eq]
      rfl

end Extraction

/-! ## Comments everywhere -/

namespace Syntax

/-- A comment on a row. -/
def commentOn (row : Nat) : Node := ⟨.comment, none, row, "//", []⟩

mutual

/-- A tree with a comment before the first child of each node and one after every child. -/
def Node.withComments : Node → Node
  | ⟨kind, slot, row, text, ns⟩ => ⟨kind, slot, row, text, commentOn row :: followedByComments ns⟩

/-- Trees with a comment after each of them and after every child in them. -/
def followedByComments : List Node → List Node
  | [] => []
  | n :: ns => n.withComments :: commentOn n.row :: followedByComments ns

end

/-- A comment with nothing in it is a bare one. -/
theorem isBareComment_commentOn (row : Nat) : (commentOn row).IsBareComment := ⟨rfl, rfl, rfl⟩

/-- Trees are followed by bare comments. -/
theorem spliced_followedByComments {R : Node → Node → Prop} {ns : List Node}
    (h : ∀ n ∈ ns, R n n.withComments) : Spliced R ns (followedByComments ns) := by
  induction ns with
  | nil => exact .nil
  | cons n ns ih =>
    obtain ⟨hn, hns⟩ := List.forall_mem_cons.mp h
    exact .keep hn (.comment (isBareComment_commentOn _) (ih hns))

/-- Comments can be put in everywhere. -/
theorem Node.commented_withComments (n : Node) : n.Commented n.withComments := by
  induction n using Node.induction with
  | step n ih =>
    cases n with
    | mk kind slot row text ns =>
      exact .intro (.comment (isBareComment_commentOn row) (spliced_followedByComments ih))

end Syntax

namespace Extraction

open Syntax

/-- The tree of `@A({ b: () => C }) class D extends E { @F m(@G g) {} }` and of `h.i()`, but for the
texts that nothing is read off. -/
def wiredTree : Node :=
  ⟨.program, none, 0, "", [
    ⟨.classDeclaration, none, 0, "", [
      ⟨.decorator, none, 0, "", [
        ⟨.call, none, 0, "", [
          ⟨.identifier, some .callee, 0, "A", []⟩,
          ⟨.arguments, some .arguments, 0, "", [
            ⟨.object, none, 0, "", [
              ⟨.pair, none, 0, "", [
                ⟨.identifier, some .key, 0, "b", []⟩,
                ⟨.arrowFunction, some .value, 0, "", [
                  ⟨.identifier, some .body, 0, "C", []⟩]⟩]⟩]⟩]⟩]⟩]⟩,
      ⟨.identifier, some .name, 0, "D", []⟩,
      ⟨.heritage, none, 0, "", [
        ⟨.extendsClause, none, 0, "", [⟨.identifier, some .value, 0, "E", []⟩]⟩]⟩,
      ⟨.classBody, some .body, 0, "", [
        ⟨.decorator, none, 1, "", [⟨.identifier, none, 1, "F", []⟩]⟩,
        ⟨.methodDefinition, none, 2, "", [
          ⟨.identifier, some .name, 2, "m", []⟩,
          ⟨.parameters, some .parameters, 2, "", [
            ⟨.requiredParameter, none, 2, "", [
              ⟨.decorator, none, 2, "", [⟨.identifier, none, 2, "G", []⟩]⟩,
              ⟨.identifier, some .pattern, 2, "g", []⟩]⟩]⟩]⟩]⟩]⟩,
    ⟨.call, none, 3, "", [
      ⟨.member, some .callee, 3, "", [
        ⟨.identifier, some .object, 3, "h", []⟩,
        ⟨.identifier, some .property, 3, "i", []⟩]⟩,
      ⟨.arguments, some .arguments, 3, "", []⟩]⟩]⟩

/-- The class, its method and the parameter are read off this tree with their decorators, and so
they are when comments stand everywhere. -/
theorem parsedFileOf_commented_everywhere :
    wiredTree.Commented wiredTree.withComments ∧
      parsedFileOf "d.ts" wiredTree = parsedFileOf "d.ts" wiredTree.withComments ∧
      ((parsedFileOf "d.ts" wiredTree.withComments).declarations.map fun d =>
        (d.nameOrEmpty, d.line, d.base)) = [("D", 1, some "E"), ("m", 2, none), ("g", 3, none)] ∧
      (((parsedFileOf "d.ts" wiredTree.withComments).declarations.flatMap
        Declaration.decorators).map fun d =>
          (d.name, d.arguments.map fun a => (a.property? "b").bind Argument.value)) =
        [("A", [some "C"]), ("F", []), ("G", [])] ∧
      (parsedFileOf "d.ts" wiredTree.withComments).calls = [⟨"h", "i", 4⟩] := by
  have hcommented := wiredTree.commented_withComments
  exact ⟨hcommented, parsedFileOf_commented hcommented "d.ts", by decide +kernel,
    by decide +kernel, by decide +kernel⟩

end Extraction

end ModuleLint
