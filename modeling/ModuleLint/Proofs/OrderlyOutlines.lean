import ModuleLint.TypeScript.Lexeme
import ModuleLint.Proofs.Giving

/-!
# Orderly outlines

An export statement is made of decorators and comments, of its word and of what it hands out, in
which there is no decorator and one class at most. An outline is orderly if this holds of all its
export statements. Parsers that make no such statement themselves give orderly outlines if they
put together orderly ones.
-/

namespace ModuleLint.TypeScript

open ModuleLint.Syntax

/-- The children of an export statement: what stands before its word is no class, and what follows
is no decorator and holds one class at most. -/
def AreExported (os : List Outline) : Prop :=
  ∃ before parts, os = before ++ parts ∧ (∀ o ∈ before, o.kind.isClass = false) ∧
    (∀ o ∈ parts, o.kind ≠ .decorator) ∧ parts.countP (fun o => o.kind.isClass) ≤ 1

/-- In an outline all export statements have the children that they should. -/
inductive Outline.Orderly : Outline → Prop
  | intro {o : Outline} (exported : o.kind = .exportStatement → AreExported o.children)
      (children : ∀ c ∈ o.children, Orderly c) : Orderly o

/-- A phrase is orderly and no decorator, so that an export statement may hand it out. -/
structure Outline.IsPhrase (o : Outline) : Prop where
  orderly : o.Orderly
  kind_ne : o.kind ≠ .decorator

/-- A phrase that is no class. -/
structure Outline.IsPart (o : Outline) : Prop extends o.IsPhrase where
  isClass_eq : o.kind.isClass = false

/-- What may stand before the word of an export statement: an orderly outline that is no class. -/
structure Outline.StandsBefore (o : Outline) : Prop where
  orderly : o.Orderly
  isClass_eq : o.kind.isClass = false

/-- What may follow the word of an export statement: phrases with one class among them at most. -/
def AreHandedOut (os : List Outline) : Prop :=
  (∀ o ∈ os, o.IsPhrase) ∧ os.countP (fun o => o.kind.isClass) ≤ 1

/-- A phrase may be handed out. -/
theorem AreHandedOut.single {o : Outline} (h : o.IsPhrase) : AreHandedOut [o] :=
  ⟨by simpa using h, List.countP_le_length⟩

/-- Parts may be handed out. -/
theorem AreHandedOut.of_parts {os : List Outline} (h : ∀ o ∈ os, o.IsPart) :
    AreHandedOut os := by
  refine ⟨fun o ho => (h o ho).toIsPhrase, Nat.le_trans (Nat.le_of_eq ?_) (Nat.zero_le 1)⟩
  refine List.countP_eq_zero.mpr fun o ho => ?_
  rw [(h o ho).isClass_eq]
  exact Bool.false_ne_true

/-- All outlines of a list meet a condition. -/
def All (P : Outline → Prop) (os : List Outline) : Prop := ∀ o ∈ os, P o

namespace All

variable {P Q : Outline → Prop} {o : Outline} {os os' : List Outline}

theorem nil : All P [] := fun _ ho => absurd ho List.not_mem_nil

theorem cons (ho : P o) (hos : All P os) : All P (o :: os) := List.forall_mem_cons.mpr ⟨ho, hos⟩

theorem single (ho : P o) : All P [o] := cons ho nil

theorem append (hos : All P os) (hos' : All P os') : All P (os ++ os') :=
  List.forall_mem_append.mpr ⟨hos, hos'⟩

theorem flatten {oss : List (List Outline)} (h : ∀ os ∈ oss, All P os) : All P oss.flatten := by
  intro o ho
  obtain ⟨os, hos, ho⟩ := List.mem_flatten.mp ho
  exact h os hos o ho

theorem orderly (h : All Outline.IsPart os) : All Outline.Orderly os :=
  fun o ho => (h o ho).orderly

theorem standsBefore (h : All Outline.IsPart os) : All Outline.StandsBefore os :=
  fun o ho => ⟨(h o ho).orderly, (h o ho).isClass_eq⟩

theorem orderly_of_standsBefore (h : All Outline.StandsBefore os) : All Outline.Orderly os :=
  fun o ho => (h o ho).orderly

end All

/-- A kind that export statements are not told by: it is no export statement, no decorator and no
declared class. -/
def isPlain : Kind → Bool
  | .exportStatement | .decorator | .classDeclaration | .abstractClass => false
  | _ => true

/-- An outline of a plain kind is a part, if its children are orderly. -/
theorem Outline.IsPart.of_isPlain {kind : Kind} {slot : Option Slot} {start stop : Nat}
    {children : List Outline} (hkind : isPlain kind) (hchildren : All Outline.Orderly children) :
    IsPart ⟨kind, slot, start, stop, children⟩ where
  orderly := .intro (by rintro rfl; simp [isPlain] at hkind) hchildren
  kind_ne := by rintro rfl; simp [isPlain] at hkind
  isClass_eq := by cases kind <;> first | rfl | simp [isPlain] at hkind

/-- The part that an outline plays changes nothing. -/
theorem Outline.IsPart.as {o : Outline} (h : o.IsPart) (slot : Slot) : (o.as slot).IsPart where
  orderly := by
    cases h.orderly with
    | intro exported children => exact .intro exported children
  kind_ne := h.kind_ne
  isClass_eq := h.isClass_eq

namespace Parser

/-- Every outline that a parser gives is a part. -/
abbrev GivesPart (p : Parser Outline) : Prop := Gives Outline.IsPart p

/-- All outlines in every list that a parser gives are parts. -/
abbrev GivesParts (p : Parser (List Outline)) : Prop := Gives (All Outline.IsPart) p

namespace Gives

variable {P : Outline → Prop} {kind : Kind}

/-- Parts are phrases. -/
theorem isPhrase {p : Parser Outline} (hp : GivesPart p) : Gives Outline.IsPhrase p :=
  mono hp fun _ ho => ho.toIsPhrase

/-- Parts are orderly. -/
theorem orderly {p : Parser (List Outline)} (hp : GivesParts p) :
    Gives (All Outline.Orderly) p :=
  mono hp fun _ => All.orderly

theorem one {p : Parser Outline} (hp : Gives P p) : Gives (All P) (Parser.one p) :=
  map hp fun _ ho => All.single ho

theorem maybe {p : Parser (List Outline)} (hp : Gives (All P) p) : Gives (All P) (Parser.maybe p) :=
  orElse hp (pure .nil)

theorem manyOutlines {p : Parser (List Outline)} (hp : Gives (All P) p) :
    Gives (All P) (Parser.manyOutlines p) :=
  map (many hp) fun _ hoss => All.flatten hoss

theorem commaList {p : Parser (List Outline)} (hp : Gives (All P) p) :
    Gives (All P) (Parser.commaList p) :=
  map (separated hp) fun _ hoss => All.flatten hoss

theorem inOrder_nil : Gives (All P) (Parser.inOrder []) := pure .nil

theorem inOrder_cons {p : Parser (List Outline)} {ps : List (Parser (List Outline))}
    (hp : Gives (All P) p) (hps : Gives (All P) (Parser.inOrder ps)) :
    Gives (All P) (Parser.inOrder (p :: ps)) :=
  bind hp fun _ hos => bind hps fun _ hos' => pure (hos.append hos')

/-- A node is orderly if its children are and it is no export statement. -/
theorem node_orderly {p : Parser (List Outline)} (hkind : kind ≠ .exportStatement)
    (hp : Gives (All Outline.Orderly) p) :
    Gives (fun o => o.Orderly ∧ o.kind = kind) (Parser.node kind p) :=
  skip fun _ => skip fun _ => bind hp fun _ hos => skip fun _ =>
    pure ⟨.intro (fun heq => absurd heq hkind) hos, rfl⟩

/-- Nodes of a plain kind are parts. -/
theorem node {p : Parser (List Outline)} (hkind : isPlain kind)
    (hp : Gives (All Outline.Orderly) p) : GivesPart (Parser.node kind p) :=
  skip fun _ => skip fun _ => bind hp fun _ hos => skip fun _ => pure (.of_isPlain hkind hos)

theorem nodeFrom {start : Nat} {children : List Outline} (hkind : isPlain kind)
    (hchildren : All Outline.Orderly children) :
    GivesPart (Parser.nodeFrom kind start children) :=
  skip fun _ => pure (.of_isPlain hkind hchildren)

theorem leaf {p : Parser Unit} (hkind : isPlain kind) :
    GivesPart (TypeScript.leaf kind p) :=
  node hkind (skip fun _ => pure .nil)

theorem comments : GivesParts Parser.comments := by
  refine skip fun input => skip fun start => ?_
  split
  refine skip fun _ => pure fun o ho => ?_
  obtain ⟨⟨first, last⟩, -, rfl⟩ := List.mem_map.mp ho
  exact .of_isPlain rfl .nil

theorem nameNode : GivesPart TypeScript.nameNode :=
  skip fun _ => skip fun _ => skip fun w => skip fun _ => nodeFrom (by split <;> rfl) .nil

theorem wordNode : GivesPart TypeScript.wordNode := leaf rfl

theorem stringNode : GivesPart TypeScript.stringNode := leaf rfl

theorem numberNode : GivesPart TypeScript.numberNode := leaf rfl

theorem privateName : GivesPart TypeScript.privateName := leaf rfl

theorem regexNode : GivesPart TypeScript.regexNode := leaf rfl

theorem templateRest {inside : Parser Outline} (hinside : GivesPart inside) (fuel : Nat)
    {found : List Outline} (hfound : All Outline.IsPart found) :
    GivesParts (templateNode.templateRest inside fuel found) := by
  induction fuel generalizing found with
  | zero => exact failure
  | succ fuel ih =>
    refine skip fun c? => skip fun d? => ?_
    split
    · exact skip fun _ => pure fun o ho => hfound o (List.mem_reverse.mp ho)
    · exact skip fun _ => ih hfound
    · exact skip fun _ => bind hinside fun _ ho => skip fun _ => ih (hfound.cons ho)
    · exact skip fun _ => ih hfound
    · exact failure

theorem templateNode {inside : Parser Outline} (hkind : isPlain kind)
    (hinside : GivesPart inside) :
    GivesPart (TypeScript.templateNode kind inside) :=
  node hkind (skip fun _ => skip fun input =>
    orderly (templateRest hinside (input.text.size + 1) .nil))

end Gives

end Parser

end ModuleLint.TypeScript
