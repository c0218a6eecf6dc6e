import ModuleLint.TypeScript.Reader
import ModuleLint.Proofs.OrderlyExpressions

/-!
# Orderly statements

The parsers of classes and statements give orderly outlines, if those of the phrases inside them
do; so phrases are orderly however deep they are nested, and so is the outline of a source text.
Each statement is about the parser of the same name.
-/

namespace ModuleLint.TypeScript

open ModuleLint.Syntax

namespace Parser.Gives

variable {inner : Inner}

/-! ## Classes -/

/-- A declaration of a class is orderly, and no decorator. -/
theorem nodeFrom_class {isAbstract : Bool} {start : Nat} {children : List Outline}
    (hchildren : All Outline.Orderly children) :
    Gives Outline.IsPhrase
      (Parser.nodeFrom (if isAbstract then .abstractClass else .classDeclaration) start
        children) := by
  refine skip fun _ => pure ⟨.intro ?_ hchildren, ?_⟩
  · intro hkind
    cases isAbstract <;> cases hkind
  · intro hkind
    cases isAbstract <;> cases hkind

section Classes

variable (h : Sound inner)
include h

theorem heritageNode : GivesPart (TypeScript.heritageNode inner) := by
  have hextends : GivesPart (heritageNode.extendsClause inner) :=
    node_of_parts rfl (skip fun _ => bind (h .operand) fun _ hbase =>
      bind (maybe (typeArguments h)) fun _ htypes => bind (manyOutlines (skip fun _ =>
        inOrder_cons (one (h .operand)) (inOrder_cons (maybe (typeArguments h)) inOrder_nil)))
        fun _ hothers => pure ((All.cons (Outline.IsPart.as hbase _) htypes).append hothers))
  have himplements : GivesParts (heritageNode.implementsClause inner) :=
    skip fun _ => commaList (one (h .type))
  exact node_of_parts rfl (bind (maybe (one hextends)) fun _ hextended =>
    bind (maybe himplements) fun _ himplemented => skip fun _ =>
      pure (hextended.append himplemented))

theorem staticBlock : GivesParts (TypeScript.staticBlock inner) :=
  one (node_of_parts rfl (skip fun _ => one (blockNode h)))

theorem indexSignature : GivesParts (TypeScript.indexSignature inner) :=
  one (node_of_parts rfl (skip fun _ => inOrder_cons (indexKey h)
    (inOrder_cons (ascription h) inOrder_nil)))

theorem methodMember {decorators : List Outline} (hdecorators : All Outline.Orderly decorators) :
    Gives (All Outline.Orderly) (TypeScript.methodMember inner decorators) := by
  refine skip fun _ => skip fun start => skip fun _ => skip fun _ => bind (memberName h)
    fun name hname => skip fun _ => bind (signature h) fun parts hparts =>
      bind (opt (blockNode h)) fun body? hbody => ?_
  have hparts : All Outline.IsPart (name.as .name :: parts) := .cons (hname.as _) hparts
  cases body? with
  | none =>
    exact bind (nodeFrom_of_parts rfl hparts) fun _ ho =>
      pure (hdecorators.append (.single ho.orderly))
  | some body =>
    have hbody : Outline.IsPart (body.as .body) := (hbody body rfl).as _
    exact bind (nodeFrom_of_parts rfl (hparts.append (.single hbody))) fun _ ho =>
      pure (hdecorators.append (.single ho.orderly))

theorem fieldMember (start : Nat) {decorators : List Outline}
    (hdecorators : All Outline.Orderly decorators) :
    GivesParts (TypeScript.fieldMember inner start decorators) :=
  skip fun _ => bind (memberName h) fun _ hname => skip fun _ =>
    bind (inOrder_cons (maybe (ascription h)) (inOrder_cons (maybe (initializer h)) inOrder_nil))
      fun _ hparts => one (nodeFrom rfl
        (hdecorators.append (All.cons (hname.as _) hparts).orderly))

theorem classMember : Gives (All Outline.Orderly) (TypeScript.classMember inner) := by
  refine skip fun _ => skip fun start => bind (decorators h) fun decorators hdecorators => ?_
  have hdecorators : All Outline.Orderly decorators := hdecorators.orderly_of_standsBefore
  exact orElse
    (bind (staticBlock h) fun _ hmember => pure (hdecorators.append hmember.orderly))
    (orElse
      (bind (indexSignature h) fun _ hmember => pure (hdecorators.append hmember.orderly))
      (orElse (methodMember h hdecorators)
        (orElse (orderly (fieldMember h start hdecorators))
          (skip fun _ => pure hdecorators))))

theorem classBody : GivesPart (TypeScript.classBody inner) := by
  refine node rfl (skip fun _ => bind (manyOutlines (bind comments fun before hbefore =>
    skip fun c? => ?_)) fun _ hmembers => skip fun _ => pure hmembers)
  have hbefore : All Outline.Orderly before := hbefore.orderly
  split
  · exact skip fun _ => pure hbefore
  · exact skip fun _ => pure hbefore
  · exact bind (orElse (orderly (one (leaf rfl)))
      (orElse (classMember h) (orderly (one strayToken))))
      fun _ hmember => pure (hbefore.append hmember)

theorem classParts (named : Bool) :
    GivesParts (TypeScript.classParts inner named) := by
  have hname : GivesPart classParts.className := skip fun _ => skip fun _ => nameNode
  have hparts {name : List Outline} (hname : All Outline.IsPart name) :
      GivesParts (do
        let parts ← Parser.inOrder [Parser.maybe (TypeScript.typeParameters inner),
          Parser.maybe (Parser.one (TypeScript.heritageNode inner))]
        let body ← TypeScript.classBody inner
        return name.map (·.as .name) ++ parts ++ [body.as .body]) := by
    refine bind (inOrder_cons (maybe (typeParameters h))
      (inOrder_cons (maybe (one (heritageNode h))) inOrder_nil)) fun _ hparts =>
        bind (classBody h) fun _ hbody => pure (All.append (All.append ?_ hparts)
          (.single (hbody.as _)))
    exact List.forall_mem_map.mpr fun o ho => (hname o ho).as _
  refine skip fun _ => ?_
  split
  · exact bind (one hname) fun _ => hparts
  · exact bind (maybe (one hname)) fun _ => hparts

theorem classExpression : GivesPart (TypeScript.classExpression inner) :=
  node rfl (bind (decorators h) fun _ hdecorators => bind (classParts h false) fun _ hparts =>
    pure (hdecorators.orderly_of_standsBefore.append hparts.orderly))

theorem classDeclaration (start : Nat) {decorators : List Outline}
    (hdecorators : All Outline.StandsBefore decorators) :
    Gives Outline.IsPhrase (TypeScript.classDeclaration inner start decorators) :=
  skip fun _ => bind (classParts h true) fun _ hparts => nodeFrom_class
    (hdecorators.orderly_of_standsBefore.append hparts.orderly)

end Classes

/-! ## Statements -/

section Statements

variable (h : Sound inner)
include h

omit h in
theorem statementOf {p : Parser (List Outline)} (hp : Gives (All Outline.Orderly) p) :
    GivesPart (TypeScript.statementOf p) :=
  node rfl (bind hp fun _ hparts => skip fun _ => pure hparts)

theorem condition : GivesParts (TypeScript.condition inner) :=
  between (one (h .expression))

theorem declarator : GivesParts (TypeScript.declarator inner) :=
  bind (h .binding) fun _ htarget => skip fun _ => bind (inOrder_cons (maybe (ascription h))
    (inOrder_cons (maybe (initializer h)) inOrder_nil)) fun _ hparts => pure (.cons htarget hparts)

theorem variableList : GivesParts (TypeScript.variableList inner) :=
  skip fun _ => commaList (declarator h)

theorem iteration : GivesParts (TypeScript.iteration inner) :=
  bind (orElse (skip fun _ => one (h .binding)) (one (h .operand))) fun _ htarget =>
    bind (maybe (ascription h)) fun _ hparts => skip fun _ => bind (h .expression) fun _ hwhole =>
      pure ((All.append htarget hparts).append (.single hwhole))

theorem counting : GivesParts (TypeScript.counting inner) :=
  bind (maybe (orElse (variableList h) (one (h .expression)))) fun _ hfirst => skip fun _ =>
    bind (maybe (one (h .expression))) fun _ htest => skip fun _ =>
      bind (maybe (one (h .expression))) fun _ hnext => pure ((hfirst.append htest).append hnext)

theorem forLoop : Gives (All Outline.Orderly) (TypeScript.forLoop inner) :=
  skip fun _ => skip fun _ => bind (orElse (between (iteration h)) (between (counting h)))
    fun _ hhead => bind (statement h) fun _ hbody => pure (hhead.orderly.append (.single hbody))

theorem branch : Gives (All Outline.Orderly) (TypeScript.branch inner) :=
  skip fun _ => bind (condition h) fun _ htest => bind (statement h) fun _ hyes =>
    bind (maybe (skip fun _ => one (statement h))) fun _ hno =>
      pure (htest.orderly.append (.cons hyes hno))

theorem selection : Gives (All Outline.Orderly) (TypeScript.selection inner) := by
  have hclause : GivesParts (selection.clause inner) :=
    bind (orElse (skip fun _ => one (h .expression)) (skip fun _ => pure .nil)) fun _ hvalue =>
      skip fun _ => pure hvalue
  exact skip fun _ => bind (condition h) fun _ hvalue => skip fun _ => bind (manyOutlines
    (orElse (orderly hclause) (skip fun _ => skip fun _ => skip fun _ =>
      one (orElse (statement h) orderly_strayToken)))) fun _ hclauses => skip fun _ =>
        pure (hvalue.orderly.append hclauses)

theorem guarded : GivesParts (TypeScript.guarded inner) := by
  have hcaught : GivesParts (Parser.inOrder [Parser.one (inner .binding),
      Parser.maybe (TypeScript.ascription inner)]) :=
    inOrder_cons (one (h .binding)) (inOrder_cons (maybe (ascription h)) inOrder_nil)
  exact skip fun _ => bind (blockNode h) fun _ hbody => bind (maybe (skip fun _ =>
    bind (maybe (between hcaught)) fun _ hcaught => bind (blockNode h) fun _ hblock =>
      pure (hcaught.append (.single hblock)))) fun _ hhandler =>
        bind (maybe (skip fun _ => one (blockNode h))) fun _ hlast =>
          pure ((All.cons hbody hhandler).append hlast)

theorem leaving : GivesParts (TypeScript.leaving inner) := by
  refine skip fun _ => skip fun _ => ?_
  split
  · exact pure .nil
  · exact maybe (one (h .expression))

theorem conditionLoop : Gives (All Outline.Orderly) (TypeScript.conditionLoop inner) :=
  orElse
    (skip fun _ => bind (condition h) fun _ htest => bind (statement h) fun _ hbody =>
      pure (htest.orderly.append (.single hbody)))
    (skip fun _ => bind (statement h) fun _ hbody => skip fun _ => bind (condition h)
      fun _ htest => pure (.cons hbody htest.orderly))

theorem labelled : Gives (All Outline.Orderly) (TypeScript.labelled inner) :=
  skip fun _ => skip fun _ => one (statement h)

theorem functionDeclaration :
    GivesParts (TypeScript.functionDeclaration inner) :=
  skip fun _ => skip fun _ => one (functionNode h)

theorem typeAlias : GivesParts (TypeScript.typeAlias inner) :=
  skip fun _ => skip fun _ => skip fun _ => skip fun _ => bind (maybe (typeParameters h))
    fun _ hparameters => skip fun _ => skip fun _ => skip fun _ => bind (h .type) fun _ htype =>
      pure (hparameters.append (.single htype))

theorem interfaceDeclaration :
    GivesParts (TypeScript.interfaceDeclaration inner) :=
  skip fun _ => skip fun _ => inOrder_cons (maybe (typeParameters h))
    (inOrder_cons (maybe (skip fun _ => commaList (one (h .type))))
      (inOrder_cons (objectType h) inOrder_nil))

theorem enumDeclaration : GivesParts (TypeScript.enumDeclaration inner) :=
  skip fun _ => skip fun _ => skip fun _ => between (commaList (inOrder_cons (one (memberName h))
    (inOrder_cons (maybe (initializer h)) inOrder_nil)))

theorem namespaceDeclaration :
    GivesParts (TypeScript.namespaceDeclaration inner) :=
  skip fun _ => skip fun _ => skip fun _ => skip fun _ => maybe (one (blockNode h))

theorem ambientDeclaration :
    Gives (All Outline.Orderly) (TypeScript.ambientDeclaration inner) :=
  skip fun _ => skip fun _ => skip fun _ => orElse
    (skip fun _ => orderly (one (blockNode h)))
    (skip fun _ => skip fun _ => skip fun _ => one (statement h))

theorem importAttributes : GivesParts (TypeScript.importAttributes inner) :=
  skip fun _ => one (objectNode h)

theorem importDeclaration : GivesParts (TypeScript.importDeclaration inner) := by
  have hplain : GivesParts (importDeclaration.plain inner) :=
    skip fun _ => maybe (importAttributes h)
  have hnamed : GivesParts (importDeclaration.named inner) :=
    skip fun _ => skip fun _ => skip fun _ => maybe (importAttributes h)
  have hassigned : GivesParts (importDeclaration.assigned inner) :=
    skip fun _ => skip fun _ => skip fun _ => one (h .assignment)
  exact skip fun _ => skip fun _ => orElse hplain (orElse hnamed hassigned)

/-- What an export statement hands out has no decorator in it and one class at most. -/
theorem exported : Gives AreHandedOut (TypeScript.exported inner) := by
  have hclass : Gives AreHandedOut (exported.decoratedClass inner) :=
    skip fun _ => skip fun start => bind (decorators h) fun _ hbefore =>
      map (classDeclaration h start hbefore) fun _ => AreHandedOut.single
  have hnone {p : Parser (List Outline)} (hp : GivesParts p) :
      Gives AreHandedOut p := mono hp fun _ => AreHandedOut.of_parts
  refine orElse ?byDefault (orElse ?fromModule (orElse ?names (orElse ?assigned
    (orElse ?asNamespace ?declared))))
  case byDefault =>
    exact skip fun _ => orElse hclass (orElse (hnone (functionDeclaration h))
      (orElse (hnone (skip fun _ => skip fun _ => interfaceDeclaration h))
        (hnone (one (h .assignment)))))
  case fromModule =>
    exact hnone (skip fun _ => skip fun _ => skip fun _ => skip fun _ => skip fun _ =>
      maybe (importAttributes h))
  case names =>
    exact hnone (skip fun _ => skip fun _ => maybe (skip fun _ => skip fun _ =>
      maybe (importAttributes h)))
  case assigned =>
    exact hnone (skip fun _ => skip fun _ => skip fun _ => one (h .expression))
  case asNamespace =>
    exact hnone (skip fun _ => skip fun _ => skip fun _ => pure .nil)
  case declared =>
    exact orElse hclass (map (h .statement) fun _ => AreHandedOut.single)

theorem decoratedStatement : Gives Outline.IsPhrase (TypeScript.decoratedStatement inner) := by
  refine skip fun _ => skip fun start => bind (decorators h) fun before hbefore =>
    orElse (skip fun _ => bind (exported h) fun parts hparts => skip fun _ => skip fun _ =>
      pure ⟨.intro (fun _ => ⟨before, parts, rfl, ?_, ?_, hparts.2⟩) ?_, by rintro ⟨⟩⟩)
      (classDeclaration h start hbefore)
  · exact fun o ho => (hbefore o ho).isClass_eq
  · exact fun o ho => (hparts.1 o ho).kind_ne
  · exact hbefore.orderly_of_standsBefore.append fun o ho => (hparts.1 o ho).orderly

theorem wordStatement : Gives Outline.IsPhrase (TypeScript.wordStatement inner) := by
  have hof {p : Parser (List Outline)} (hp : Gives (All Outline.Orderly) p) :
      Gives Outline.IsPhrase (TypeScript.statementOf p) :=
    isPhrase (statementOf hp)
  have hrest : Gives Outline.IsPhrase (wordStatement.rest inner) :=
    orElse (hof (labelled h)) (hof (orderly (one (h .expression))))
  have hor {p : Parser (List Outline)} (hp : Gives (All Outline.Orderly) p) :
      Gives Outline.IsPhrase (TypeScript.statementOf p <|> wordStatement.rest inner) :=
    orElse (hof hp) hrest
  have himport := hor (orderly (importDeclaration h))
  have hdecorated := orElse (decoratedStatement h) hrest
  have hfunction := hor (orderly (functionDeclaration h))
  have hinterface := hor (orderly (interfaceDeclaration h))
  have htype := hor (orderly (typeAlias h))
  have hvariable := hor (orderly (variableList h))
  have henum := orElse (hof (orderly (enumDeclaration h))) hvariable
  have hnamespace := hor (orderly (namespaceDeclaration h))
  have hambient := hor (ambientDeclaration h)
  have hbranch := hor (branch h)
  have hfor := hor (forLoop h)
  have hcondition := hor (conditionLoop h)
  have hselection := hor (selection h)
  have hguarded := hor (orderly (guarded h))
  have hleaving := hor (orderly (leaving h))
  refine skip fun w => ?_
  split <;> with_reducible assumption

theorem statementNode : Gives Outline.IsPhrase (TypeScript.statementNode inner) := by
  refine skip fun _ => skip fun c? => ?_
  split
  · exact failure
  · exact isPhrase (leaf rfl)
  · exact isPhrase (blockNode h)
  · exact decoratedStatement h
  · split
    · exact wordStatement h
    · exact isPhrase (statementOf (orderly (one (h .expression))))

end Statements

/-! ## Source texts -/

theorem phraseNode (h : Sound inner) (p : Phrase) :
    Gives p.Admits (TypeScript.phraseNode inner p) := by
  have hclass := classExpression h
  cases p with
  | statement => exact statementNode h
  | expression => exact expressionNode h
  | assignment => exact assignmentNode h (operandNode h hclass) true
  | plainAssignment => exact assignmentNode h (operandNode h hclass) false
  | operand => exact operandNode h hclass
  | type => exact typeNode h
  | binding => exact bindingNode h
  | element => exact elementNode h
  | constructed => exact chainNode h hclass false

/-- Phrases are what they have to be, however deep they are nested. -/
theorem sound_phrase (fuel : Nat) : Sound (phrase fuel) := by
  induction fuel with
  | zero => exact fun p => failure
  | succ fuel ih => exact fun p => phraseNode ih p

theorem programNode (h : Sound inner) : Gives Outline.Orderly (TypeScript.programNode inner) := by
  refine skip fun _ => skip fun _ => bind (Q := All Outline.Orderly) (manyOutlines
    (bind comments fun before hbefore => skip fun c? => ?_)) fun _ hstatements => skip fun _ =>
      pure (.intro (by rintro ⟨⟩) hstatements)
  have hbefore : All Outline.Orderly before := hbefore.orderly
  split
  · exact skip fun _ => pure hbefore
  · exact bind orderly_strayToken fun _ ho => pure (hbefore.append (.single ho))
  · exact bind (orElse (statement h) orderly_strayToken) fun _ ho =>
      pure (hbefore.append (.single ho))

end Parser.Gives

/-- The outline of a source text is orderly. -/
theorem orderly_outline (dialect : Dialect) (text : Array Char) :
    (outline dialect text).Orderly := by
  rw [outline]
  split
  next o _ h => exact Parser.Gives.programNode (Parser.Gives.sound_phrase _) _ _ _ _ h
  next => exact .intro (by rintro ⟨⟩) All.nil

end ModuleLint.TypeScript
