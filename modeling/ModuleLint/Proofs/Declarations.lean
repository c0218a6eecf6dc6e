import ModuleLint.Parsing

/-!
# Where declarations stand

Each line that the declarations of a source text mention, be it that of a class, a member, a
parameter, a decorator or a call, is the line of some node of the syntax tree. No node begins after
the last line of the text, so none of these lines lies beyond it.
-/

namespace ModuleLint

namespace Syntax

/-- A node is the root of a tree or lies below it. -/
inductive Node.Within (root : Node) : Node → Prop
  | refl : Within root root
  | child {n c : Node} (within : Within root n) (isChild : c ∈ n.children) : Within root c

/-- All nodes that a site tells of belong to the tree. -/
structure Site.Within (root : Node) (s : Site) : Prop where
  node : root.Within s.node
  parent : ∀ p ∈ s.parent, root.Within p
  before : ∀ n ∈ s.before, root.Within n

variable {root : Node}

/-- A child found by the part it plays belongs to the tree. -/
theorem Node.Within.child? {n c : Node} {slot : Slot} (h : root.Within n)
    (hc : n.child? slot = some c) : root.Within c :=
  h.child (List.mem_of_find?_eq_some hc)

namespace Site

/-- The sites of siblings belong to the tree. -/
theorem Within.of_mem_ofSiblings {parent : Node} (hparent : root.Within parent)
    {before ns : List Node} (hbefore : ∀ n ∈ before, root.Within n)
    (hns : ∀ n ∈ ns, root.Within n) {s : Site} (hs : s ∈ ofSiblings parent before ns) :
    s.Within root := by
  induction ns generalizing before with
  | nil => cases hs
  | cons n ns ih =>
    rcases List.mem_cons.mp hs with rfl | hs
    · exact ⟨hns n List.mem_cons_self, by simpa using hparent, hbefore⟩
    · exact ih (List.forall_mem_cons.mpr ⟨hns n List.mem_cons_self, hbefore⟩)
        (fun m hm => hns m (List.mem_cons_of_mem n hm)) hs

/-- The sites of the children of a node belong to the tree. -/
theorem Within.of_mem_children {s t : Site} (hs : root.Within s.node) (ht : t ∈ s.children) :
    t.Within root :=
  .of_mem_ofSiblings hs (by simp) (fun _ hc => hs.child hc) ht

/-- The sites that a visit goes on to belong to the tree. -/
theorem Within.of_mem_visitFrom {visited stack : List Site}
    (hvisited : ∀ s ∈ visited, s.Within root) (hstack : ∀ s ∈ stack, s.Within root) :
    ∀ s ∈ visitFrom visited stack, s.Within root := by
  fun_induction visitFrom visited stack with
  | case1 visited => simpa using hvisited
  | case2 visited s stack ih =>
    obtain ⟨hs, hstack⟩ := List.forall_mem_cons.mp hstack
    refine ih (List.forall_mem_cons.mpr ⟨hs, hvisited⟩) fun t ht => ?_
    rcases List.mem_append.mp ht with ht | ht
    · exact .of_mem_children hs.node ht
    · exact hstack t ht

/-- The sites of a tree belong to it. -/
theorem Within.of_mem_ofKind {wanted : Kind → Bool} {s : Site} (hs : s ∈ ofKind wanted root) :
    s.Within root := by
  have hroot : (Site.root root).Within root := ⟨.refl, by simp [Site.root], by simp [Site.root]⟩
  exact of_mem_visitFrom (by simp) (by simpa using hroot) s (List.mem_filter.mp hs).1

/-- The decorators outside a node belong to the tree. -/
theorem Within.outerDecorators {s : Site} (h : s.Within root) :
    ∀ d ∈ s.outerDecorators, root.Within d := by
  intro d hd
  unfold Site.outerDecorators at hd
  split at hd
  · cases hd
  next parent hparent =>
    split at hd
    · exact (h.parent parent hparent).child (List.mem_filter.mp hd).1
    · split at hd
      · have htaken := (List.mem_filter.mp (List.mem_reverse.mp hd)).1
        exact h.before d ((List.takeWhile_prefix _).subset htaken)
      · cases hd

/-- The decorators of a place belong to the tree. -/
theorem Within.decorators {s : Site} (h : s.Within root) :
    ∀ d ∈ s.decorators, root.Within d := by
  intro d hd
  rcases List.mem_append.mp hd with hd | hd
  · exact h.outerDecorators d hd
  · exact h.node.child (List.mem_filter.mp hd).1

end Site

end Syntax

/-- A declaration mentions a line: its own, or that of a decorator, a member or a parameter. -/
inductive Declaration.Mentions (line : Int) : Declaration → Prop
  | own {d : Declaration} (eq : d.line = line) : Mentions line d
  | decorator {d : Declaration} {dec : Decorator} (mem : dec ∈ d.decorators)
      (eq : dec.line = line) : Mentions line d
  | member {d m : Declaration} (mem : m ∈ d.members) (mentions : Mentions line m) : Mentions line d
  | parameter {d p : Declaration} (mem : p ∈ d.parameters) (mentions : Mentions line p) :
      Mentions line d

/-- The declarations of a file mention a line: one of its classes does, or a call begins there. -/
def ParsedFile.Mentions (line : Int) (p : ParsedFile) : Prop :=
  (∃ c ∈ p.classes, c.Mentions line) ∨ ∃ c ∈ p.calls, c.line = line

namespace Extraction

open ModuleLint.Syntax

/-- A line on which some node of a tree begins. -/
def Begins (root : Node) (line : Int) : Prop :=
  ∃ n, root.Within n ∧ n.line = line

variable {root : Node}

/-- Every decorator of a place is on the line of a node. -/
theorem begins_of_mem_decoratorsOf {s : Site} (h : s.Within root) {d : Decorator}
    (hd : d ∈ decoratorsOf s) : Begins root d.line := by
  obtain ⟨n, hn, rfl⟩ := List.mem_map.mp hd
  exact ⟨n, h.decorators n hn, rfl⟩

/-- The first line of a node and its decorators is that of one of them. -/
theorem begins_firstLine {n : Node} (hn : root.Within n) {decorators : List Decorator}
    (hdecorators : ∀ d ∈ decorators, Begins root d.line) :
    Begins root (firstLine n decorators) := by
  unfold firstLine
  have hline : Begins root n.line := ⟨n, hn, rfl⟩
  generalize n.line = line at hline ⊢
  induction decorators generalizing line with
  | nil => exact hline
  | cons d ds ih =>
    obtain ⟨hd, hds⟩ := List.forall_mem_cons.mp hdecorators
    refine ih hds _ ?_
    change Begins root (min line d.line)
    rcases Int.le_total line d.line with hle | hle
    · rwa [Int.min_eq_left hle]
    · rwa [Int.min_eq_right hle]

/-- The sites of the named children of a node belong to the tree. -/
theorem within_of_mem_childSites {n : Node} (hn : root.Within n) {s : Site}
    (hs : s ∈ childSites n) : s.Within root :=
  Site.Within.of_mem_children hn (List.mem_filter.mp hs).1

/-- What is declared at a place mentions lines of nodes alone, if its members and parameters do. -/
theorem begins_of_mentions {s : Site} (h : s.Within root) {d : Declaration}
    (hdecorators : d.decorators = decoratorsOf s)
    (hline : d.line = firstLine s.node d.decorators)
    (hmembers : ∀ m ∈ d.members, ∀ line, m.Mentions line → Begins root line)
    (hparameters : ∀ p ∈ d.parameters, ∀ line, p.Mentions line → Begins root line) {line : Int}
    (hmentions : d.Mentions line) : Begins root line := by
  have hbegins (dec : Decorator) (hdec : dec ∈ d.decorators) : Begins root dec.line :=
    begins_of_mem_decoratorsOf h (hdecorators ▸ hdec)
  cases hmentions with
  | own heq => exact heq ▸ hline ▸ begins_firstLine h.node hbegins
  | decorator hmem heq => exact heq ▸ hbegins _ hmem
  | member hmem hmentions => exact hmembers _ hmem line hmentions
  | parameter hmem hmentions => exact hparameters _ hmem line hmentions

/-- A parameter mentions lines of nodes alone. -/
theorem begins_of_mentions_parameterOf {s : Site} (h : s.Within root) {line : Int}
    (hline : (parameterOf s).Mentions line) : Begins root line :=
  begins_of_mentions h rfl rfl (by simp [parameterOf]) (by simp [parameterOf]) hline

/-- The parameters of a method mention lines of nodes alone. -/
theorem begins_of_mem_parametersOf {method : Node} (h : root.Within method) {p : Declaration}
    (hp : p ∈ parametersOf method) {line : Int} (hline : p.Mentions line) : Begins root line := by
  unfold parametersOf at hp
  split at hp
  · cases hp
  next list hlist =>
    obtain ⟨s, hs, rfl⟩ := List.mem_map.mp hp
    have hwithin := within_of_mem_childSites (h.child? hlist) (List.mem_filter.mp hs).1
    exact begins_of_mentions_parameterOf hwithin hline

/-- A member mentions lines of nodes alone. -/
theorem begins_of_mentions_memberOf {s : Site} (h : s.Within root) {kind : DeclarationKind}
    {line : Int} (hline : (memberOf s kind).Mentions line) : Begins root line := by
  refine begins_of_mentions h rfl rfl (by simp [memberOf]) ?_ hline
  intro p hp line hline
  simp only [memberOf] at hp
  split at hp
  · exact begins_of_mem_parametersOf h.node hp hline
  · cases hp

/-- The members of a class are read off sites of its tree. -/
theorem exists_site_of_mem_members {s : Site} (h : root.Within s.node) {m : Declaration}
    (hm : m ∈ (classOf s).members) :
    ∃ (t : Site) (kind : DeclarationKind), t.Within root ∧ m = memberOf t kind := by
  cases hbody : s.node.child? .body with
  | none => simp [classOf, hbody] at hm
  | some body =>
    obtain ⟨t, ht, hm⟩ : ∃ t ∈ childSites body, (memberKind? t.node).map (memberOf t) = some m := by
      simpa [classOf, hbody, membersOf] using hm
    obtain ⟨kind, -, rfl⟩ := Option.map_eq_some_iff.mp hm
    exact ⟨t, kind, within_of_mem_childSites (h.child? hbody) ht, rfl⟩

/-- A class mentions lines of nodes alone. -/
theorem begins_of_mentions_classOf {s : Site} (h : s.Within root) {line : Int}
    (hline : (classOf s).Mentions line) : Begins root line := by
  refine begins_of_mentions h rfl rfl ?_ (by simp [classOf]) hline
  intro m hm line hline
  obtain ⟨t, kind, ht, rfl⟩ := exists_site_of_mem_members h.node hm
  exact begins_of_mentions_memberOf ht hline

/-- A call is on the line of its node. -/
theorem line_of_callOf?_eq_some {n : Node} {call : CallSite} (h : callOf? n = some call) :
    call.line = n.line := by
  unfold callOf? at h
  split at h
  · cases h
  · split at h
    · split at h
      · cases h
      · obtain rfl := Option.some.inj h
        rfl
    · cases h

/-- The declarations of a syntax tree mention lines of its nodes alone. -/
theorem begins_of_mentions_parsedFileOf {path : String} {line : Int}
    (h : (parsedFileOf path root).Mentions line) : Begins root line := by
  rcases h with ⟨c, hc, hline⟩ | ⟨call, hcall, rfl⟩
  · obtain ⟨s, hs, rfl⟩ := List.mem_map.mp hc
    exact begins_of_mentions_classOf (.of_mem_ofKind hs) hline
  · obtain ⟨s, hs, hcall⟩ := List.mem_filterMap.mp hcall
    exact ⟨s.node, (Site.Within.of_mem_ofKind hs).node, (line_of_callOf?_eq_some hcall).symm⟩

end Extraction

namespace TypeScript

open ModuleLint.Syntax

/-- The trees of outlines are made one by one. -/
theorem toNodes_eq_map (s : Source) (os : List Outline) :
    toNodes s os = os.map (Outline.toNode s) := by
  induction os with
  | nil => rfl
  | cons o os ih => rw [toNodes, ih, List.map_cons]

/-- Each node of the tree of an outline is that of an outline. -/
theorem exists_eq_toNode_of_within {s : Source} {o : Outline} {n : Node}
    (h : (o.toNode s).Within n) : ∃ o' : Outline, n = o'.toNode s := by
  induction h with
  | refl => exact ⟨o, rfl⟩
  | child _ hchild ih =>
    obtain ⟨⟨kind, slot, start, stop, children⟩, rfl⟩ := ih
    rw [Outline.toNode, toNodes_eq_map] at hchild
    obtain ⟨o', -, rfl⟩ := List.mem_map.mp hchild
    exact ⟨o', rfl⟩

/-- No node of the tree of an outline begins below the last row. -/
theorem row_toNode_le (s : Source) (o : Outline) : (o.toNode s).row ≤ s.lastRow := by
  obtain ⟨kind, slot, start, stop, children⟩ := o
  rw [Outline.toNode]
  exact Nat.min_le_right _ _

/-- No node of a source text begins below the last of its lines. -/
theorem row_le_of_within_read {dialect : Dialect} {text : String} {n : Node}
    (h : (read dialect text).Within n) : n.row ≤ text.toList.count '\n' := by
  obtain ⟨o, rfl⟩ := exists_eq_toNode_of_within h
  exact row_toNode_le _ o

end TypeScript

/-- The declarations of a source text mention lines of the text alone. -/
theorem Parsing.mem_lines_of_mentions {path extension source : String} {p : ParsedFile}
    (hp : ofText path extension source = some p) {line : Int} (h : p.Mentions line) :
    1 ≤ line ∧ line ≤ source.toList.count '\n' + 1 := by
  obtain ⟨dialect, -, rfl⟩ := Option.map_eq_some_iff.mp hp
  obtain ⟨n, hn, rfl⟩ := Extraction.begins_of_mentions_parsedFileOf h
  have hrow := TypeScript.row_le_of_within_read hn
  rw [Syntax.Node.line]
  omega

end ModuleLint
