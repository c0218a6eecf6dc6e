import ModuleLint.TypeScript.Lexeme

/-!
# Types, parameters and decorators

Types say nothing that the rules look at, but their ends must be found, and expressions can
stand inside them. Parameters and bindings are read together with them, since each can hold the
other.
-/

namespace ModuleLint.TypeScript

open ModuleLint.Syntax ModuleLint.TypeScript.Parser

/-- Type arguments. -/
def typeArguments (inner : Inner) : Parser (List Outline) :=
  between "<" ">" (commaList (one (inner .type)))

/-- The name of a member or property: a name, a string, a number or an expression in brackets.
-/
def memberName (inner : Inner) : Parser Outline := do
  blank
  match ← peek? with
  | some '\'' => stringNode
  | some '"' => stringNode
  | some '#' => privateName
  | some '[' => node .other (between "[" "]" (one (inner .assignment)))
  | some c => if c.isDigit || c == '.' then numberNode else wordNode
  | none => failure

/-- A type after its colon. -/
def ascription (inner : Inner) : Parser (List Outline) := do
  mark ":"
  one (inner .type)

/-- Whether a mark follows that is not part of a longer one. -/
def seesAssign : Parser Bool := do
  return (← seesMark "=") && !(← seesMark "==") && !(← seesMark "=>")

/-- A value after its equals sign. -/
def initializer (inner : Inner) : Parser (List Outline) := do
  require (← seesAssign)
  mark "="
  one (inner .assignment)

/-- What a function gives: a type, or what it asserts of an argument. -/
def givenType (inner : Inner) : Parser (List Outline) :=
  assertion <|> predicate <|> one (inner .type)
where
  /-- A type predicate. -/
  predicate : Parser (List Outline) := do
    let _ ← word
    keyword "is"
    one (inner .type)
  /-- An assertion. -/
  assertion : Parser (List Outline) := do
    keyword "asserts"
    require (!(← lineBreak))
    let _ ← word
    maybe do
      keyword "is"
      one (inner .type)

/-- What a function gives, after its colon. -/
def resultType (inner : Inner) : Parser (List Outline) := do
  mark ":"
  givenType inner

/-- The parameters of a generic declaration. -/
def typeParameters (inner : Inner) : Parser (List Outline) :=
  between "<" ">" (commaList do
    let _ ← many do
      keywordOf ["const", "in", "out"]
      require (← sees word)
    let _ ← word
    inOrder [
      maybe (do keyword "extends"; one (inner .type)),
      maybe (do mark "="; one (inner .type))])

/-- The argument list of a call. -/
def argumentList (inner : Inner) : Parser Outline :=
  node .arguments do
    mark "("
    let items ← separated (mark ",") (do
      let before ← comments
      let argument ← spread <|> inner .assignment
      return before ++ [argument] ++ (← comments))
    let last ← comments
    mark ")"
    return items.flatten ++ last
where
  /-- An argument that is spread out. -/
  spread : Parser Outline :=
    node .other do
      mark "..."
      one (inner .assignment)

/-- The dotted name of a decorator. -/
def decoratorName : Parser Outline := do
  blank
  let start ← place
  let first ← leaf .identifier (word *> pure ())
  dotted start first ((← read).text.size + 1)
where
  /-- The members after the first name. -/
  dotted (start : Nat) (object : Outline) : Nat → Parser Outline
    | 0 => pure object
    | fuel + 1 => do
      if ← seesMark "." then do
        mark "."
        let property ← wordNode
        let whole ← nodeFrom .member start [object.as .object, property.as .property]
        dotted start whole fuel
      else return object

/-- A decorator. -/
def decoratorNode (inner : Inner) : Parser Outline :=
  node .decorator do
    mark "@"
    if ← seesMark "(" then one (inner .operand)
    else do
      blank
      let start ← place
      let name ← decoratorName
      let call : Parser (List Outline) := do
        let types ← maybe (typeArguments inner)
        let arguments ← argumentList inner
        one (nodeFrom .call start (name.as .callee :: types ++ [arguments.as .arguments]))
      call <|> pure [name]

/-- Decorators and the comments between them. -/
def decorators (inner : Inner) : Parser (List Outline) :=
  manyOutlines do
    let before ← comments
    return before ++ [← decoratorNode inner]

/-- Words that may stand before a parameter. -/
def parameterModifiers : List String :=
  ["public", "private", "protected", "override", "readonly"]

/-- Whether a name or the opening of a pattern comes next. -/
def seesBinding : Parser Bool :=
  sees (word *> pure () <|> mark "\x7b" <|> mark "[")

/-- A parameter of a function. -/
def parameterNode (inner : Inner) : Parser Outline := do
  blank
  let start ← place
  let decorators ← decorators inner
  let _ ← many do
    keywordOf parameterModifiers
    require (← seesBinding)
  let pattern ← rest <|> inner .binding
  let isOptional ← seesMark "?"
  if isOptional then mark "?"
  let parts ← inOrder [maybe (ascription inner), maybe (initializer inner)]
  nodeFrom (if isOptional then .optionalParameter else .requiredParameter) start
    (decorators ++ pattern.as .pattern :: parts)
where
  /-- A parameter that takes all remaining arguments. -/
  rest : Parser Outline :=
    node .other do
      mark "..."
      one (inner .binding)

/-- The parameters of a function. -/
def parameterList (inner : Inner) : Parser Outline :=
  node .parameters do
    mark "("
    let items ← separated (mark ",") (do
      let before ← comments
      let parameter ← parameterNode inner
      return before ++ [parameter] ++ (← comments))
    let last ← comments
    mark ")"
    return items.flatten ++ last

/-- The type parameters, parameters and result type of a function. -/
def signature (inner : Inner) : Parser (List Outline) :=
  inOrder [
    maybe (typeParameters inner),
    (do return [(← parameterList inner).as .parameters]),
    maybe (resultType inner)]

/-- What a value is bound to: a name or a pattern. -/
def bindingNode (inner : Inner) : Parser Outline := do
  blank
  match ← peek? with
  | some '\x7b' =>
    node .other (between "\x7b" "\x7d" (commaList property))
  | some '[' =>
    node .other (between "[" "]" do
      let first ← maybe element
      let rest ← manyOutlines (do mark ","; maybe element)
      return first ++ rest)
  | _ => nameNode
where
  /-- A pattern that takes what is left. -/
  rest : Parser (List Outline) := do
    mark "..."
    one (inner .binding)
  /-- A pattern with its default value. -/
  element : Parser (List Outline) :=
    rest <|> inOrder [one (inner .binding), maybe (initializer inner)]
  /-- A property of an object pattern. -/
  property : Parser (List Outline) :=
    rest <|> inOrder [
      one (memberName inner),
      maybe (do mark ":"; one (inner .binding)),
      maybe (initializer inner)]

/-- The type of a function or of what constructs an object. -/
def functionType (inner : Inner) : Parser (List Outline) := do
  let _ ← optional (keyword "abstract")
  let _ ← optional (keyword "new")
  inOrder [
    maybe (typeParameters inner),
    one (parameterList inner),
    (do
      mark "=>"
      givenType inner)]

/-- The key of a mapped type in its brackets. -/
def mappedKey (inner : Inner) : Parser (List Outline) := do
  let _ ← optional sign
  let _ ← optional (keyword "readonly")
  let key ← between "[" "]" do
    let _ ← word
    keyword "in"
    inOrder [one (inner .type), maybe (do keyword "as"; one (inner .type))]
  let _ ← optional sign
  let _ ← optional (mark "?")
  return key
where
  /-- A plus or a minus. -/
  sign : Parser Unit := mark "+" <|> mark "-"

/-- The key of an index signature in its brackets. -/
def indexKey (inner : Inner) : Parser (List Outline) :=
  between "[" "]" do
    let _ ← word
    ascription inner

/-- Words that may stand before a member of an object type. -/
def signatureModifiers : List String :=
  ["public", "private", "protected", "static", "readonly", "get", "set", "async"]

/-- Whether the name of a member, or the star before it, comes next. -/
def seesMemberName : Parser Bool := do
  blank
  match ← peek? with
  | some c =>
    return isNameStart c || c == '\\' || c == '#' || c == '\'' || c == '"' || c == '[' ||
      c == '*' || c.isDigit
  | none => return false

/-- Passes over words that stand before a member's name, not over a name that is such a word.
-/
def modifiers (words : List String) : Parser (List String) :=
  many do
    let w ← word
    require (words.contains w)
    require (← seesMemberName)
    return w

/-- A member of an object type. -/
def typeMember (inner : Inner) : Parser (List Outline) :=
  (do inOrder [mappedKey inner, maybe (ascription inner)]) <|>
  (do
    let _ ← modifiers signatureModifiers
    inOrder [indexKey inner, ascription inner]) <|>
  (do
    let _ ← optional (keyword "abstract")
    let _ ← optional (keyword "new")
    signature inner) <|>
  (do
    let _ ← modifiers signatureModifiers
    let name ← memberName inner
    let _ ← optional (mark "?" <|> mark "!")
    let rest ← signature inner <|> maybe (ascription inner)
    return name :: rest)

/-- The members of an object type, in its braces. -/
def objectType (inner : Inner) : Parser (List Outline) :=
  between "\x7b" "\x7d" do
    let _ ← many separator
    manyOutlines do
      let found ← typeMember inner
      let _ ← many separator
      return found
where
  /-- A mark between members. -/
  separator : Parser Unit := mark ";" <|> mark ","

/-- An element of a tuple type. -/
def tupleElement (inner : Inner) : Parser (List Outline) := do
  let _ ← optional (mark "...")
  let _ ← optional do
    let _ ← word
    let _ ← optional (mark "?")
    mark ":"
  let element ← inner .type
  let _ ← optional (mark "?")
  return [element]

/-- The value whose type a type query asks for. -/
def queriedValue (inner : Inner) : Parser Outline := do
  blank
  let start ← place
  let first ← imported <|> nameNode
  chain start first ((← read).text.size + 1)
where
  /-- An imported module. -/
  imported : Parser Outline :=
    node .other do
      keyword "import"
      one (argumentList inner)
  /-- The members, indices and calls after the first name. -/
  chain (start : Nat) (object : Outline) : Nat → Parser Outline
    | 0 => pure object
    | fuel + 1 => do
      if (← seesMark ".") || (← seesMark "?.") then do
        let _ ← optional (mark "?")
        mark "."
        let property ← privateName <|> wordNode
        chain start (← nodeFrom .member start [object.as .object, property.as .property]) fuel
      else if (← seesMark "[") && !(← lineBreak) then
        (do
          let index ← between "[" "]" (one (inner .type))
          chain start (← nodeFrom .other start (object :: index)) fuel) <|> pure object
      else if (← seesMark "(") && !(← lineBreak) then do
        let arguments ← argumentList inner
        chain start
          (← nodeFrom .call start [object.as .callee, arguments.as .arguments]) fuel
      else return object

/-- A type that is not made of other types by operators. -/
def plainType (inner : Inner) : Parser (List Outline) := do
  blank
  match ← peek? with
  | some '(' => between "(" ")" (one (inner .type))
  | some '[' => between "[" "]" (commaList (tupleElement inner))
  | some '\x7b' => objectType inner
  | some '\'' => one stringNode
  | some '"' => one stringNode
  | some '\x60' => one (templateNode .other (inner .type))
  | some '-' => do
    mark "-"
    one numberNode
  | some c =>
    if c.isDigit || c == '.' then one numberNode
    else do
      let w ← word
      let arguments ← if w == "import" then one (argumentList inner) else pure []
      let _ ← many do
        mark "."
        let _ ← word
      let types ← maybe (typeArguments inner)
      return arguments ++ types
  | none => failure

/-- A type with the brackets after it. -/
def elementType (inner : Inner) : Parser (List Outline) := do
  let base ← plainType inner
  let rest ← manyOutlines do
    require (!(← lineBreak))
    between "[" "]" (maybe (one (inner .type)))
  return base ++ rest

/-- Whether a type can begin with the next token. -/
def seesType : Parser Bool := do
  blank
  match ← peek? with
  | some c =>
    return isNameStart c || c.isDigit || c == '(' || c == '[' || c == '\x7b' || c == '\'' ||
      c == '"' || c == '\x60' || c == '-'
  | none => return false

/-- A type with the words before it. -/
def operatorType (inner : Inner) : Parser (List Outline) := do
  let _ ← many do
    keywordOf ["keyof", "unique", "readonly"]
    require (← seesType)
  query <|> inferred <|> elementType inner
where
  /-- The type of a value. -/
  query : Parser (List Outline) := do
    keyword "typeof"
    let value ← queriedValue inner
    let types ← maybe (typeArguments inner)
    let rest ← manyOutlines do
      require (!(← lineBreak))
      between "[" "]" (maybe (one (inner .type)))
    return value :: types ++ rest
  /-- A type to be inferred. -/
  inferred : Parser (List Outline) := do
    keyword "infer"
    let _ ← word
    maybe do
      keyword "extends"
      let bound ← operatorBound
      require (!(← seesMark "?"))
      return bound
  /-- The bound of an inferred type. -/
  operatorBound : Parser (List Outline) := elementType inner

/-- Types joined by bars and ampersands. -/
def unionType (inner : Inner) : Parser (List Outline) := do
  let _ ← optional joint
  let first ← operatorType inner
  let rest ← manyOutlines (joint *> operatorType inner)
  return first ++ rest
where
  /-- A mark between the types. -/
  joint : Parser Unit := do
    (mark "|" *> absent (exact ['|'])) <|> (mark "&" *> absent (exact ['&']))

/-- A type. -/
def typeNode (inner : Inner) : Parser Outline :=
  node .other (functionType inner <|> do
    let checked ← unionType inner
    let rest ← maybe do
      require (!(← lineBreak))
      keyword "extends"
      let bound ← inner .type
      mark "?"
      let yes ← inner .type
      mark ":"
      let no ← inner .type
      return [bound, yes, no]
    return checked ++ rest)

end ModuleLint.TypeScript
