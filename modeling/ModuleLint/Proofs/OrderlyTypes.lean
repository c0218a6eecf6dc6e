import ModuleLint.TypeScript.Types
import ModuleLint.Proofs.OrderlyOutlines

/-!
# Orderly types, parameters and decorators

The parsers of types, parameters, bindings and decorators give orderly outlines, if those of the
phrases inside them do. Each statement is about the parser of the same name.
-/

namespace ModuleLint.TypeScript

open ModuleLint.Syntax

/-- What a phrase of the grammar has to be. -/
def Phrase.Admits : Phrase → Outline → Prop
  | .statement => Outline.IsPhrase
  | _ => Outline.IsPart

/-- Parsers of inner phrases that give what these have to be. -/
def Sound (inner : Inner) : Prop := ∀ p, Parser.Gives p.Admits (inner p)

namespace Parser.Gives

variable {inner : Inner}

theorem node_of_parts {kind : Kind} {p : Parser (List Outline)} (hkind : isPlain kind)
    (hp : GivesParts p) : GivesPart (Parser.node kind p) :=
  node hkind (orderly hp)

theorem nodeFrom_of_parts {kind : Kind} {start : Nat} {children : List Outline}
    (hkind : isPlain kind) (hchildren : All Outline.IsPart children) :
    GivesPart (Parser.nodeFrom kind start children) :=
  nodeFrom hkind hchildren.orderly

/-- Comments may stand before and after what is listed between commas. -/
theorem betweenComments {p : Parser Outline} (hp : GivesPart p) :
    GivesParts (do
      let before ← Parser.comments
      let o ← p
      return before ++ [o] ++ (← Parser.comments)) :=
  bind comments fun _ hbefore => bind hp fun _ ho => bind comments fun _ hafter =>
    pure ((hbefore.append (.single ho)).append hafter)

/-- What is listed between commas, with the comments after it, in marks. -/
theorem listed {kind : Kind} {opening closing : String} {p : Parser (List Outline)}
    (hkind : isPlain kind) (hp : GivesParts p) :
    GivesPart (Parser.node kind do
      Parser.mark opening
      let items ← Parser.separated (Parser.mark ",") p
      let last ← Parser.comments
      Parser.mark closing
      return items.flatten ++ last) :=
  node_of_parts hkind (skip fun _ => bind (separated hp) fun _ hitems =>
    bind comments fun _ hlast => skip fun _ => pure ((All.flatten hitems).append hlast))

theorem decoratorName : GivesPart TypeScript.decoratorName := by
  have hdotted (start fuel : Nat) {object : Outline} (hobject : object.IsPart) :
      GivesPart (decoratorName.dotted start object fuel) := by
    induction fuel generalizing object with
    | zero => exact pure hobject
    | succ fuel ih =>
      refine skip fun dot => ?_
      split
      · exact skip fun _ => bind wordNode fun property hproperty =>
          bind (nodeFrom_of_parts rfl (.cons (hobject.as _) (.single (hproperty.as _)))) fun _ => ih
      · exact pure hobject
  exact skip fun _ => skip fun start => bind (leaf rfl) fun _ hfirst => skip fun input =>
    hdotted start (input.text.size + 1) hfirst

section Types

variable (h : Sound inner)
include h

theorem typeArguments : GivesParts (TypeScript.typeArguments inner) :=
  between (commaList (one (h .type)))

theorem memberName : GivesPart (TypeScript.memberName inner) := by
  refine skip fun _ => skip fun c? => ?_
  split
  · exact stringNode
  · exact stringNode
  · exact privateName
  · exact node_of_parts rfl (between (one (h .assignment)))
  · split
    · exact numberNode
    · exact wordNode
  · exact failure

theorem ascription : GivesParts (TypeScript.ascription inner) :=
  skip fun _ => one (h .type)

theorem initializer : GivesParts (TypeScript.initializer inner) :=
  skip fun _ => skip fun _ => skip fun _ => one (h .assignment)

theorem givenType : GivesParts (TypeScript.givenType inner) := by
  have hassertion : GivesParts (givenType.assertion inner) :=
    skip fun _ => skip fun _ => skip fun _ => skip fun _ => maybe (skip fun _ => one (h .type))
  have hpredicate : GivesParts (givenType.predicate inner) :=
    skip fun _ => skip fun _ => one (h .type)
  exact orElse hassertion (orElse hpredicate (one (h .type)))

theorem resultType : GivesParts (TypeScript.resultType inner) :=
  skip fun _ => givenType h

theorem typeParameters : GivesParts (TypeScript.typeParameters inner) :=
  between (commaList (skip fun _ => skip fun _ =>
    inOrder_cons (maybe (skip fun _ => one (h .type)))
      (inOrder_cons (maybe (skip fun _ => one (h .type))) inOrder_nil)))

theorem argumentList : GivesPart (TypeScript.argumentList inner) := by
  have hspread : GivesPart (argumentList.spread inner) :=
    node_of_parts rfl (skip fun _ => one (h .assignment))
  exact listed rfl (betweenComments (orElse hspread (h .assignment)))

/-- A decorator is orderly, and no class. -/
theorem decoratorNode : Gives Outline.StandsBefore (TypeScript.decoratorNode inner) := by
  refine mono (node_orderly (by decide) (orderly (skip fun _ => skip fun bracket => ?_)))
    fun o ho => ⟨ho.1, by rw [ho.2]; rfl⟩
  split
  · exact one (h .operand)
  · refine skip fun _ => skip fun start => bind decoratorName fun name hname => ?_
    refine orElse (bind (maybe (typeArguments h)) fun types htypes => ?_) (pure (.single hname))
    exact bind (argumentList h) fun arguments harguments => one (nodeFrom_of_parts rfl
      ((All.cons (hname.as _) htypes).append (.single (harguments.as _))))

theorem decorators : Gives (All Outline.StandsBefore) (TypeScript.decorators inner) :=
  manyOutlines (bind comments fun _ hbefore => bind (decoratorNode h) fun _ ho =>
    pure ((hbefore.standsBefore).append (.single ho)))

theorem parameterNode : GivesPart (TypeScript.parameterNode inner) := by
  have hrest : GivesPart (parameterNode.rest inner) :=
    node_of_parts rfl (skip fun _ => one (h .binding))
  refine skip fun _ => skip fun start => bind (decorators h) fun before hbefore =>
    skip fun _ => bind (orElse hrest (h .binding)) fun pattern hpattern =>
      skip fun isOptional => ?_
  have hparts : GivesParts (Parser.inOrder
      [Parser.maybe (TypeScript.ascription inner), Parser.maybe (TypeScript.initializer inner)]) :=
    inOrder_cons (maybe (ascription h)) (inOrder_cons (maybe (initializer h)) inOrder_nil)
  have hnode {kind : Kind} (hkind : isPlain kind) : GivesPart (do
      let parts ← Parser.inOrder
        [Parser.maybe (TypeScript.ascription inner), Parser.maybe (TypeScript.initializer inner)]
      Parser.nodeFrom kind start (before ++ pattern.as .pattern :: parts)) :=
    bind hparts fun parts hparts => nodeFrom hkind
      (hbefore.orderly_of_standsBefore.append (All.cons (hpattern.as _) hparts).orderly)
  split
  · exact skip fun _ => hnode rfl
  · exact hnode rfl

theorem parameterList : GivesPart (TypeScript.parameterList inner) :=
  listed rfl (betweenComments (parameterNode h))

theorem signature : GivesParts (TypeScript.signature inner) :=
  inOrder_cons (maybe (typeParameters h))
    (inOrder_cons (bind (parameterList h) fun _ hlist => pure (.single (hlist.as _)))
      (inOrder_cons (maybe (resultType h)) inOrder_nil))

theorem bindingNode : GivesPart (TypeScript.bindingNode inner) := by
  have hrest : GivesParts (bindingNode.rest inner) :=
    skip fun _ => one (h .binding)
  have helement : GivesParts (bindingNode.element inner) :=
    orElse hrest
      (inOrder_cons (one (h .binding)) (inOrder_cons (maybe (initializer h)) inOrder_nil))
  have hproperty : GivesParts (bindingNode.property inner) :=
    orElse hrest (inOrder_cons (one (memberName h))
      (inOrder_cons (maybe (skip fun _ => one (h .binding)))
        (inOrder_cons (maybe (initializer h)) inOrder_nil)))
  refine skip fun _ => skip fun c? => ?_
  split
  · exact node_of_parts rfl (between (commaList hproperty))
  · exact node_of_parts rfl (between (bind (maybe helement) fun _ hfirst =>
      bind (manyOutlines (skip fun _ => maybe helement)) fun _ hothers =>
        pure (hfirst.append hothers)))
  · exact nameNode

theorem functionType : GivesParts (TypeScript.functionType inner) :=
  skip fun _ => skip fun _ => inOrder_cons (maybe (typeParameters h))
    (inOrder_cons (one (parameterList h)) (inOrder_cons (skip fun _ => givenType h) inOrder_nil))

theorem mappedKey : GivesParts (TypeScript.mappedKey inner) :=
  skip fun _ => skip fun _ => bind (between (skip fun _ => skip fun _ =>
    inOrder_cons (one (h .type)) (inOrder_cons (maybe (skip fun _ => one (h .type))) inOrder_nil)))
    fun _ hkey => skip fun _ => skip fun _ => pure hkey

theorem indexKey : GivesParts (TypeScript.indexKey inner) :=
  between (skip fun _ => ascription h)

theorem typeMember : GivesParts (TypeScript.typeMember inner) := by
  refine orElse ?_ (orElse ?_ (orElse ?_ ?_))
  · exact inOrder_cons (mappedKey h) (inOrder_cons (maybe (ascription h)) inOrder_nil)
  · exact skip fun _ => inOrder_cons (indexKey h) (inOrder_cons (ascription h) inOrder_nil)
  · exact skip fun _ => skip fun _ => signature h
  · exact skip fun _ => bind (memberName h) fun _ hname => skip fun _ =>
      bind (orElse (signature h) (maybe (ascription h))) fun _ hrest => pure (.cons hname hrest)

theorem objectType : GivesParts (TypeScript.objectType inner) :=
  between (skip fun _ => manyOutlines (bind (typeMember h) fun _ hfound => skip fun _ =>
    pure hfound))

theorem tupleElement : GivesParts (TypeScript.tupleElement inner) :=
  skip fun _ => skip fun _ => bind (h .type) fun _ helement => skip fun _ => pure (.single helement)

theorem queriedValue : GivesPart (TypeScript.queriedValue inner) := by
  have himported : GivesPart (queriedValue.imported inner) :=
    node_of_parts rfl (skip fun _ => one (argumentList h))
  have hchain (start fuel : Nat) {object : Outline} (hobject : object.IsPart) :
      GivesPart (queriedValue.chain inner start object fuel) := by
    induction fuel generalizing object with
    | zero => exact pure hobject
    | succ fuel ih =>
      refine skip fun _ => skip fun _ => ?_
      split
      · exact skip fun _ => skip fun _ => bind (orElse privateName wordNode) fun _ hproperty =>
          bind (nodeFrom_of_parts rfl (.cons (hobject.as _) (.single (hproperty.as _)))) fun _ => ih
      · refine skip fun _ => skip fun _ => ?_
        split
        · exact orElse (bind (between (one (h .type))) fun _ hindex =>
            bind (nodeFrom_of_parts rfl (.cons hobject hindex)) fun _ => ih) (pure hobject)
        · refine skip fun _ => skip fun _ => ?_
          split
          · exact bind (argumentList h) fun _ harguments => bind (nodeFrom_of_parts rfl
              (.cons (hobject.as _) (.single (harguments.as _)))) fun _ => ih
          · exact pure hobject
  exact skip fun _ => skip fun start => bind (orElse himported nameNode) fun _ hfirst =>
    skip fun input => hchain start (input.text.size + 1) hfirst

theorem plainType : GivesParts (TypeScript.plainType inner) := by
  refine skip fun _ => skip fun c? => ?_
  split
  · exact between (one (h .type))
  · exact between (commaList (tupleElement h))
  · exact objectType h
  · exact one stringNode
  · exact one stringNode
  · exact one (templateNode rfl (h .type))
  · exact skip fun _ => one numberNode
  · split
    · exact one numberNode
    · refine skip fun w => ?_
      have htypes {arguments : List Outline} (harguments : All Outline.IsPart arguments) :
          GivesParts (do
            let _ ← Parser.many (do Parser.mark "."; let _ ← word)
            let types ← Parser.maybe (TypeScript.typeArguments inner)
            return arguments ++ types) :=
        skip fun _ => bind (maybe (typeArguments h)) fun _ htypes => pure (harguments.append htypes)
      split
      · exact bind (one (argumentList h)) fun _ harguments => htypes harguments
      · exact bind (pure .nil) fun _ harguments => htypes harguments
  · exact failure

theorem brackets : GivesParts (Parser.manyOutlines do
    Parser.require (!(← Parser.lineBreak))
    Parser.between "[" "]" (Parser.maybe (Parser.one (inner .type)))) :=
  manyOutlines (skip fun _ => skip fun _ => between (maybe (one (h .type))))

theorem elementType : GivesParts (TypeScript.elementType inner) :=
  bind (plainType h) fun _ hbase => bind (brackets h) fun _ hrest => pure (hbase.append hrest)

theorem operatorType : GivesParts (TypeScript.operatorType inner) := by
  have hquery : GivesParts (operatorType.query inner) :=
    skip fun _ => bind (queriedValue h) fun _ hvalue => bind (maybe (typeArguments h))
      fun _ htypes => bind (brackets h) fun _ hrest => pure ((All.cons hvalue htypes).append hrest)
  have hinferred : GivesParts (operatorType.inferred inner) :=
    skip fun _ => skip fun _ => maybe (skip fun _ => bind (elementType h) fun _ hbound =>
      skip fun _ => skip fun _ => pure hbound)
  exact skip fun _ => orElse hquery (orElse hinferred (elementType h))

theorem unionType : GivesParts (TypeScript.unionType inner) :=
  skip fun _ => bind (operatorType h) fun _ hfirst =>
    bind (manyOutlines (skipRight (operatorType h))) fun _ hrest => pure (hfirst.append hrest)

theorem typeNode : GivesPart (TypeScript.typeNode inner) := by
  refine node_of_parts rfl (orElse (functionType h) ?_)
  refine bind (unionType h) fun _ hchecked => bind (maybe ?_) fun _ hrest =>
    pure (hchecked.append hrest)
  exact skip fun _ => skip fun _ => skip fun _ => bind (h .type) fun _ hbound => skip fun _ =>
    bind (h .type) fun _ hyes => skip fun _ => bind (h .type) fun _ hno =>
      pure (.cons hbound (.cons hyes (.single hno)))

end Types

end Parser.Gives

end ModuleLint.TypeScript
