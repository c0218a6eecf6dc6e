import ModuleLint.TypeScript.Markup
import ModuleLint.Proofs.OrderlyTypes

/-!
# Orderly expressions

The parsers of expressions and of markup elements give orderly outlines, if those of the phrases
inside them do. No expression is a decorator or a declared class. Each statement is about the
parser of the same name.
-/

namespace ModuleLint.TypeScript

open ModuleLint.Syntax

namespace Parser.Gives

variable {inner : Inner}

theorem strayToken : GivesPart TypeScript.strayToken := leaf rfl

theorem orderly_strayToken : Gives Outline.Orderly TypeScript.strayToken :=
  mono strayToken fun _ ho => ho.orderly

theorem propertyNode : GivesPart TypeScript.propertyNode :=
  skip fun _ => orElse privateName wordNode

section Expressions

variable (h : Sound inner)
include h

/-- Inner statements are orderly. -/
theorem statement : Gives Outline.Orderly (inner .statement) :=
  mono (h .statement) fun _ ho => ho.orderly

/-- Statements are orderly, and so are the comments before them. -/
theorem statementList : Gives (All Outline.Orderly) (TypeScript.statementList inner) := by
  refine manyOutlines (bind comments fun before hbefore => skip fun c? => ?_)
  have hbefore : All Outline.Orderly before := hbefore.orderly
  split
  · exact skip fun _ => pure hbefore
  · exact skip fun _ => pure hbefore
  · exact bind (orElse (statement h) orderly_strayToken) fun _ ho =>
      pure (hbefore.append (.single ho))

theorem blockNode : GivesPart (TypeScript.blockNode inner) :=
  node rfl (skip fun _ => bind (statementList h) fun _ hstatements => skip fun _ =>
    pure hstatements)

theorem arrowBody : GivesPart (TypeScript.arrowBody inner) := by
  refine skip fun brace => ?_
  split
  · exact bind (blockNode h) fun _ hbody => pure (hbody.as _)
  · exact bind (h .assignment) fun _ hbody => pure (hbody.as _)

theorem arrowNode (typed : Bool) : GivesPart (TypeScript.arrowNode inner typed) := by
  have hlisted : GivesParts (arrowNode.listed inner typed) := by
    refine skip fun _ => skip fun _ => skip fun _ => inOrder_cons (maybe (typeParameters h))
      (inOrder_cons (bind (parameterList h) fun _ hlist => pure (.single (hlist.as _)))
        (inOrder_cons ?_ inOrder_nil))
    split
    · exact maybe (resultType h)
    · exact pure .nil
  exact node_of_parts rfl (skip fun _ => bind (orElse (one nameNode) hlisted) fun _ hparameters =>
    skip fun _ => bind (arrowBody h) fun _ hbody => pure (hparameters.append (.single hbody)))

theorem functionNode : GivesPart (TypeScript.functionNode inner) :=
  node_of_parts rfl (skip fun _ => skip fun _ => skip fun _ => skip fun _ =>
    inOrder_cons (signature h) (inOrder_cons
      (maybe (bind (blockNode h) fun _ hbody => pure (.single (hbody.as _)))) inOrder_nil))

theorem objectMember : GivesPart (TypeScript.objectMember inner) := by
  have hspread : GivesPart (objectMember.spread inner) :=
    node_of_parts rfl (skip fun _ => one (h .assignment))
  have hmethod : GivesPart (objectMember.method inner) :=
    node_of_parts rfl (skip fun _ => skip fun _ => bind (memberName h) fun _ hname =>
      skip fun _ => bind (signature h) fun _ hparts => bind (blockNode h) fun _ hbody =>
        pure ((All.cons (hname.as _) hparts).append (.single (hbody.as _))))
  have hpair : GivesPart (objectMember.pair inner) :=
    node_of_parts rfl (bind (memberName h) fun _ hkey => skip fun _ =>
      bind (h .assignment) fun _ hvalue =>
        pure (.cons (Outline.IsPart.as hkey _) (.single (Outline.IsPart.as hvalue _))))
  have hshorthand : GivesPart (objectMember.shorthand inner) :=
    node_of_parts rfl (bind wordNode fun _ hname => bind (maybe (initializer h)) fun _ hvalue =>
      pure (.cons hname hvalue))
  exact orElse hspread (orElse hmethod (orElse hpair hshorthand))

theorem objectNode : GivesPart (TypeScript.objectNode inner) :=
  listed rfl (betweenComments (objectMember h))

theorem arrayNode : GivesPart (TypeScript.arrayNode inner) := by
  have helement : GivesParts (arrayNode.element inner) :=
    skip fun _ => one (h .assignment)
  exact node_of_parts rfl (between (bind (maybe helement) fun _ hfirst =>
    bind (manyOutlines (skip fun _ => maybe helement)) fun _ hrest => pure (hfirst.append hrest)))

variable {classNode : Parser Outline} (hclass : GivesPart classNode)

include hclass in
theorem wordOperand : GivesPart (TypeScript.wordOperand inner classNode) := by
  have hnew : GivesPart (wordOperand.newNode inner) :=
    node_of_parts rfl (skip fun _ => orElse (skip fun _ => one wordNode)
      (bind (h .constructed) fun _ hconstructed => bind (maybe (typeArguments h))
        fun _ htypes => bind (maybe (one (argumentList h))) fun _ harguments =>
          pure ((All.cons hconstructed htypes).append harguments)))
  have himport : GivesPart wordOperand.importNode := by
    refine node_of_parts rfl (skip fun _ => skip fun dot => ?_)
    split
    · exact skip fun _ => skip fun _ => pure .nil
    · exact skip fun _ => skip fun _ => pure .nil
  refine skip fun isFunction => skip fun isAsync => ?_
  split
  · refine skip fun isClass => ?_
    split
    · exact hclass
    · refine skip fun isNew => ?_
      split
      · exact hnew
      · refine skip fun isImport => ?_
        split
        · exact himport
        · exact nameNode
  · exact functionNode h

include hclass in
theorem primaryNode : GivesPart (TypeScript.primaryNode inner classNode) := by
  refine skip fun _ => skip fun c? => ?_
  split
  · exact failure
  · exact node_of_parts rfl (between (one (h .expression)))
  · exact arrayNode h
  · exact objectNode h
  · exact stringNode
  · exact stringNode
  · exact templateNode rfl (h .expression)
  · exact regexNode
  · exact privateName
  · exact hclass
  · exact skip fun _ => skip fun _ => h .element
  · refine skip fun isNumber => ?_
    split
    · exact numberNode
    · exact skip fun _ => wordOperand h hclass

section Chains

variable {start : Nat} {object : Outline} (hobject : object.IsPart)
include hobject

omit h in
/-- A call of an object, with type arguments or without. -/
theorem callOf {types : List Outline} {arguments : Outline} (htypes : All Outline.IsPart types)
    (harguments : arguments.IsPart) :
    GivesPart (Parser.nodeFrom .call start
      (object.as .callee :: types ++ [arguments.as .arguments])) :=
  nodeFrom_of_parts rfl ((All.cons (hobject.as _) htypes).append (.single (harguments.as _)))

omit h in
/-- A member of an object. -/
theorem memberOf : GivesPart (do
    let property ← TypeScript.propertyNode
    Parser.nodeFrom .member start [object.as .object, property.as .property]) :=
  bind propertyNode fun _ hproperty =>
    nodeFrom_of_parts rfl (.cons (hobject.as _) (.single (hproperty.as _)))

theorem chainIndex : GivesPart (chainFrom.index inner start object) :=
  bind (between (h .expression)) fun _ hinside =>
    nodeFrom_of_parts rfl (.cons hobject (.single hinside))

theorem chainCall : GivesPart (chainFrom.call inner start object) :=
  bind (argumentList h) fun _ harguments => callOf hobject .nil harguments

theorem chainTemplate : GivesPart (chainFrom.template inner start object) :=
  skip fun _ => skip fun _ => bind (templateNode rfl (h .expression)) fun _ harguments =>
    callOf hobject .nil harguments

theorem chainGenericCall : GivesPart (chainFrom.genericCall inner start object) := by
  refine bind (typeArguments h) fun _ htypes => skip fun _ => ?_
  split
  · exact bind (argumentList h) fun _ harguments => callOf hobject htypes harguments
  · refine skip fun _ => ?_
    split
    · exact bind (templateNode rfl (h .expression)) fun _ harguments =>
        callOf hobject htypes harguments
    · exact skip fun _ => skip fun _ => nodeFrom_of_parts rfl (.cons hobject htypes)

theorem chainOptionalLink (calls : Bool) :
    GivesPart (chainFrom.optionalLink inner calls start object) := by
  refine skip fun _ => skip fun _ => skip fun _ => skip fun _ => skip fun _ => ?_
  split
  · exact chainCall h hobject
  · refine skip fun _ => ?_
    split
    · exact chainIndex h hobject
    · refine skip fun _ => ?_
      split
      · exact chainGenericCall h hobject
      · exact memberOf hobject

end Chains

theorem chainFrom (calls : Bool) (start fuel : Nat) {object : Outline} (hobject : object.IsPart) :
    GivesPart (TypeScript.chainFrom inner calls start object fuel) := by
  induction fuel generalizing object with
  | zero => exact pure hobject
  | succ fuel ih =>
    have hmember : GivesPart (chainFrom.member start object) :=
      skip fun _ => skip fun _ => skip fun _ => memberOf hobject
    have hasserted : GivesPart (chainFrom.asserted start object) :=
      skip fun _ => skip fun _ => skip fun _ => skip fun _ => skip fun _ => skip fun _ =>
        skip fun _ => nodeFrom_of_parts rfl (.single hobject)
    refine bind (opt (orElse ?_ (orElse hmember (orElse (chainOptionalLink h hobject calls)
      (orElse (chainIndex h hobject) (orElse (chainTemplate h hobject) hasserted))))))
      fun next? hnext => ?_
    · split
      · exact orElse (chainCall h hobject) (chainGenericCall h hobject)
      · exact failure
    · cases next? with
      | none => exact pure hobject
      | some next => exact ih (hnext next rfl)

include hclass in
theorem chainNode (calls : Bool) :
    GivesPart (TypeScript.chainNode inner classNode calls) :=
  skip fun _ => skip fun start => bind (primaryNode h hclass) fun _ hfirst => skip fun input =>
    chainFrom h calls start (input.text.size + 1) hfirst

include hclass in
theorem operandNode : GivesPart (TypeScript.operandNode inner classNode) := by
  have hsigned (operator : Parser Unit) :
      GivesPart (operandNode.signed inner operator) :=
    node_of_parts rfl (skip fun _ => one (h .operand))
  have htrailed : GivesPart (operandNode.trailed inner classNode) := by
    refine skip fun _ => skip fun start => bind (chainNode h hclass true) fun _ hchain =>
      skip fun _ => skip fun _ => skip fun _ => ?_
    split
    · exact skip fun _ => skip fun _ => nodeFrom_of_parts rfl (.single hchain)
    · exact pure hchain
  refine skip fun _ => skip fun c? => ?_
  split
  · exact failure
  · split
    · exact hsigned _
    · split
      · exact hsigned _
      · refine skip fun input => ?_
        split
        · exact node_of_parts rfl (bind (typeArguments h) fun _ htype =>
            bind (h .operand) fun _ hoperand => pure (htype.append (.single hoperand)))
        · refine skip fun isSigned => ?_
          split
          · exact hsigned _
          · refine skip fun isAwaited => orElse ?_ htrailed
            split
            · exact hsigned _
            · exact failure

variable {operand : Parser Outline} (hoperand : GivesPart operand)

omit h in
/-- Outlines that follow a first one, if there are any, are put into a node with it. -/
theorem joined {start : Nat} {first : Outline} {rest : List Outline} (hfirst : first.IsPart)
    (hrest : All Outline.IsPart rest) : Gives Outline.IsPart
      (if rest.isEmpty then return first else Parser.nodeFrom .other start (first :: rest)) := by
  split
  · exact pure hfirst
  · exact nodeFrom_of_parts rfl (.cons hfirst hrest)

include hoperand in
theorem operationNode : GivesPart (TypeScript.operationNode inner operand) := by
  have hcast : GivesParts (operationNode.cast inner) :=
    skip fun _ => skip fun _ => skip fun _ => one (h .type)
  exact skip fun _ => skip fun _ => bind hoperand fun _ hfirst =>
    bind (manyOutlines (orElse (skip fun _ => one hoperand) hcast)) fun _ hrest =>
      joined hfirst hrest

include hoperand in
theorem computedNode : GivesPart (TypeScript.computedNode inner operand) := by
  have halternatives {p : Parser Outline} (hp : GivesPart p) :
      Gives (fun r => r.1.IsPart ∧ r.2.IsPart) (computedNode.alternatives inner p) :=
    bind hp fun _ hyes => skip fun _ => bind (h .assignment) fun _ hno => pure ⟨hyes, hno⟩
  refine skip fun _ => skip fun start => bind (operationNode h hoperand) fun _ hfirst =>
    skip fun choice => ?_
  split
  · exact orElse (skip fun _ => bind (orElse (halternatives (h .assignment))
      (halternatives (h .plainAssignment))) fun _ hboth =>
        nodeFrom_of_parts rfl (.cons hfirst (.cons hboth.1 (.single hboth.2)))) (pure hfirst)
  · exact orElse (skip fun _ => bind (h .assignment) fun _ hvalue =>
      nodeFrom_of_parts rfl (.cons hfirst (.single hvalue))) (pure hfirst)

theorem yieldNode : GivesPart (TypeScript.yieldNode inner) := by
  refine node_of_parts rfl (skip fun _ => skip fun _ => skip fun _ => skip fun _ => ?_)
  split
  · exact pure .nil
  · exact maybe (one (h .assignment))

include hoperand in
theorem assignmentNode (typed : Bool) :
    GivesPart (TypeScript.assignmentNode inner operand typed) :=
  orElse (skip fun _ => skip fun _ => arrowNode h typed)
    (orElse (skip fun _ => skip fun _ => yieldNode h) (computedNode h hoperand))

theorem expressionNode : GivesPart (TypeScript.expressionNode inner) :=
  skip fun _ => skip fun _ => bind (h .assignment) fun _ hfirst =>
    bind (manyOutlines (skip fun _ => one (h .assignment))) fun _ hrest => joined hfirst hrest

end Expressions

/-! ## Markup -/

section Markup

variable (h : Sound inner)
include h

theorem bracedExpression : GivesParts (TypeScript.bracedExpression inner) :=
  between (skip fun _ => maybe (one (h .expression)))

theorem tagAttribute : GivesParts (TypeScript.tagAttribute inner) :=
  orElse (bracedExpression h) (skip fun _ => maybe (skip fun _ =>
    orElse (skipRight (pure .nil)) (orElse (bracedExpression h) (one (h .element)))))

theorem elementContent : GivesParts (TypeScript.elementContent inner) := by
  refine manyOutlines (skip fun c? => ?_)
  split
  · exact failure
  · exact bracedExpression h
  · exact skip fun _ => skip fun _ => one (h .element)
  · exact skip fun _ => pure .nil

theorem elementNode : GivesPart (TypeScript.elementNode inner) := by
  refine node_of_parts rfl (skip fun _ => skip fun _ => ?_)
  split
  · exact skip fun _ => bind (elementContent h) fun _ hcontent => skip fun _ => pure hcontent
  · refine skip fun _ => bind (maybe (typeArguments h)) fun _ htypes =>
      bind (manyOutlines (tagAttribute h)) fun _ hattributes => skip fun _ => ?_
    split
    · exact skip fun _ => pure (htypes.append hattributes)
    · exact skip fun _ => bind (elementContent h) fun _ hcontent => skip fun _ =>
        pure ((htypes.append hattributes).append hcontent)

end Markup

end Parser.Gives

end ModuleLint.TypeScript
