import ModuleLint.TypeScript.Markup

/-!
# Classes

Classes with their heritage and members. The decorators of a method stand before it in the
class body, and those of a property inside it.
-/

namespace ModuleLint.TypeScript

open ModuleLint.Syntax ModuleLint.TypeScript.Parser

/-- What a class extends and implements. -/
def heritageNode (inner : Inner) : Parser Outline :=
  node .heritage do
    let extended ← maybe (one extendsClause)
    let implemented ← maybe implementsClause
    require (!(extended.isEmpty && implemented.isEmpty))
    return extended ++ implemented
where
  /-- The class that is extended. -/
  extendsClause : Parser Outline :=
    node .extendsClause do
      keyword "extends"
      let base ← inner .operand
      let types ← maybe (typeArguments inner)
      -- only the first of several classes is the base
      let others ← manyOutlines do
        mark ","
        inOrder [one (inner .operand), maybe (typeArguments inner)]
      return base.as .value :: types ++ others
  /-- The types that are implemented. -/
  implementsClause : Parser (List Outline) := do
    keyword "implements"
    commaList (one (inner .type))

/-- Words that may stand before a member of a class. -/
def memberWords : List String :=
  ["public", "private", "protected", "static", "abstract", "override", "readonly", "declare",
    "async", "get", "set", "accessor"]

/-- Whether a word that may stand before a member is a property of its own, because a line ends
after it. -/
def standsAlone (w : String) : Parser Bool := do
  return w != "abstract" && w != "accessor" && (← lineBreak) && !(← seesMark "*")

/-- Passes over words that stand before a member's name, not over a name that is such a word.
-/
def memberModifiers : Parser Unit := do
  let _ ← many do
    let w ← word
    require (memberWords.contains w)
    require (!(← standsAlone w))
    require (← seesMemberName)

/-- A mark between the members of a class. -/
def memberSeparator : Parser Outline := leaf .token (mark ";" <|> mark ",")

/-- Statements that run when the class is set up. -/
def staticBlock (inner : Inner) : Parser (List Outline) :=
  one (node .other do
    keyword "static"
    one (blockNode inner))

/-- An index signature. -/
def indexSignature (inner : Inner) : Parser (List Outline) :=
  one (node .other do
    memberModifiers
    inOrder [indexKey inner, ascription inner])

/-- A method, with the decorators before it; without a body it is no more than a signature. -/
def methodMember (inner : Inner) (decorators : List Outline) : Parser (List Outline) := do
  blank
  let start ← place
  memberModifiers
  let _ ← optional (mark "*")
  let name ← memberName inner
  let _ ← optional (mark "?" <|> mark "!")
  let parts ← signature inner
  match ← optional (blockNode inner) with
  | some body =>
    let method ← nodeFrom .methodDefinition start
      (name.as .name :: parts ++ [body.as .body])
    return decorators ++ [method]
  | none =>
    let signature ← nodeFrom .other start (name.as .name :: parts)
    return decorators ++ [signature]

/-- A property, which begins at the given place with its decorators. -/
def fieldMember (inner : Inner) (start : Nat) (decorators : List Outline) :
    Parser (List Outline) := do
  memberModifiers
  let name ← memberName inner
  let _ ← optional (mark "?" <|> mark "!")
  let parts ← inOrder [maybe (ascription inner), maybe (initializer inner)]
  one (nodeFrom .fieldDefinition start (decorators ++ name.as .name :: parts))

/-- A member of a class with its decorators. -/
def classMember (inner : Inner) : Parser (List Outline) := do
  blank
  let start ← place
  let decorators ← decorators inner
  (do return decorators ++ (← staticBlock inner)) <|>
    (do return decorators ++ (← indexSignature inner)) <|>
    methodMember inner decorators <|>
    fieldMember inner start decorators <|>
    (do require (!decorators.isEmpty); return decorators)

/-- The body of a class. What is no member is passed over. -/
def classBody (inner : Inner) : Parser Outline :=
  node .classBody do
    mark "\x7b"
    let members ← manyOutlines do
      let before ← comments
      match ← peek? with
      | none => do require (!before.isEmpty); return before
      | some '\x7d' => do require (!before.isEmpty); return before
      | some _ => do
        let member ← one memberSeparator <|> classMember inner <|> one strayToken
        return before ++ member
    closingBrace
    return members

/-- The name, heritage and body of a class. -/
def classParts (inner : Inner) (named : Bool) : Parser (List Outline) := do
  keyword "class"
  let name ← if named then one className else maybe (one className)
  let parts ← inOrder [maybe (typeParameters inner), maybe (one (heritageNode inner))]
  let body ← classBody inner
  return name.map (·.as .name) ++ parts ++ [body.as .body]
where
  /-- The name of a class, which is no word of its head. -/
  className : Parser Outline := do
    require (!(← sees (keywordOf ["extends", "implements"])))
    nameNode

/-- A class as an expression. -/
def classExpression (inner : Inner) : Parser Outline :=
  node .other do
    return (← decorators inner) ++ (← classParts inner false)

/-- A class declaration after its decorators, which begin at the given place. -/
def classDeclaration (inner : Inner) (start : Nat) (decorators : List Outline) :
    Parser Outline := do
  let isAbstract ← optional (keyword "abstract")
  let parts ← classParts inner true
  nodeFrom (if isAbstract.isSome then .abstractClass else .classDeclaration) start
    (decorators ++ parts)

end ModuleLint.TypeScript
