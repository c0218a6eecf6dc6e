import ModuleLint.TypeScript.Types

/-!
# Expressions

Operands with their members, indices and calls, operators, arrow functions and assignments. The
precedence of operators is of no interest: what an operator joins becomes the children of one
node, in source order.
-/

namespace ModuleLint.TypeScript

open ModuleLint.Syntax ModuleLint.TypeScript.Parser

/-- Passes over a word or a character that begins no phrase. -/
def strayToken : Parser Outline :=
  leaf .token (word *> pure () <|> charWhere fun _ => true)

/-- Statements up to a closing brace or the end. What is no statement is passed over. -/
def statementList (inner : Inner) : Parser (List Outline) :=
  manyOutlines do
    let before ← comments
    match ← peek? with
    | none => do require (!before.isEmpty); return before
    | some '\x7d' => do require (!before.isEmpty); return before
    | some _ => return before ++ [← inner .statement <|> strayToken]

/-- A closing brace, which may be missing where the text ends. -/
def closingBrace : Parser Unit :=
  mark "\x7d" <|> (do blank; require ((← peek?).isNone))

/-- Statements in braces. -/
def blockNode (inner : Inner) : Parser Outline :=
  node .other do
    mark "\x7b"
    let statements ← statementList inner
    closingBrace
    return statements

/-! ## Arrow functions -/

/-- The place after the quotation mark that ends a string, if it ends on its line. -/
def quoteEnd? (text : Array Char) (delimiter : Char) : Nat → Nat → Option Nat
  | 0, _ => none
  | fuel + 1, place =>
    match text[place]? with
    | none => none
    | some c =>
      if c = delimiter then some (place + 1)
      else if c = '\\' then quoteEnd? text delimiter fuel (place + 2)
      else if c = '\n' ∧ delimiter ≠ '\x60' then none
      else quoteEnd? text delimiter fuel (place + 1)

/-- The place after the bracket that closes `depth` open ones, as far as brackets, strings and
comments tell. -/
def closing? (text : Array Char) : Nat → Nat → Nat → Option Nat
  | 0, _, _ => none
  | fuel + 1, depth, place =>
    match text[place]? with
    | none => none
    | some c =>
      if c = '(' ∨ c = '[' ∨ c = '\x7b' then closing? text fuel (depth + 1) (place + 1)
      else if c = ')' ∨ c = ']' ∨ c = '\x7d' then
        if depth ≤ 1 then some (place + 1) else closing? text fuel (depth - 1) (place + 1)
      else if c = '\'' ∨ c = '"' ∨ c = '\x60' then
        closing? text fuel depth ((quoteEnd? text c text.size (place + 1)).getD (place + 1))
      else if c = '/' ∧ (text[place + 1]? = some '/' ∨ text[place + 1]? = some '*') then
        closing? text fuel depth (max (place + 1) (gapFrom text [] text.size place).1)
      else closing? text fuel depth (place + 1)

/-- Whether the parenthesis that comes next may open the parameters of an arrow function. -/
def seesParameters : Parser Bool := do
  blank
  let text := (← read).text
  match closing? text (text.size + 1) 0 (← place) with
  | none => return true
  | some stop =>
    let (after, _) := gapFrom text [] (text.size + 1) stop
    return text[after]? == some ':' || (text[after]? == some '=' && text[after + 1]? == some '>')

/-- The body of an arrow function: a block or an expression. -/
def arrowBody (inner : Inner) : Parser Outline := do
  let body ← if ← seesMark "\x7b" then blockNode inner else inner .assignment
  return body.as .body

/-- An arrow function; `typed` says whether it may declare its result type. -/
def arrowNode (inner : Inner) (typed : Bool) : Parser Outline :=
  node .arrowFunction do
    let _ ← optional do
      keyword "async"
      require (!(← lineBreak))
      require (← sees (word *> pure () <|> mark "(" <|> mark "<"))
      absent (mark "=>")
    let parameters ← single <|> listed
    mark "=>"
    return parameters ++ [← arrowBody inner]
where
  /-- A parameter without parentheses. -/
  single : Parser (List Outline) := one nameNode
  /-- Parameters in parentheses. -/
  listed : Parser (List Outline) := do
    require ((← seesMark "<") || (← seesParameters))
    inOrder [
      maybe (typeParameters inner),
      (do return [(← parameterList inner).as .parameters]),
      if typed then maybe (resultType inner) else pure []]

/-- Whether an arrow function may begin here, as far as its first token tells. In markup a type
parameter is told from an element by what follows it. -/
def seesArrow : Parser Bool := do
  blank
  match ← peek? with
  | some '(' => return true
  | some '<' =>
    if (← read).markup then
      sees do
        mark "<"
        let _ ← optional (keyword "const")
        let _ ← word
        mark "," <|> keyword "extends"
    else return true
  | some c => return isNameStart c || c == '\\'
  | none => return false

/-! ## Literals -/

/-- A function expression or the function of a declaration. -/
def functionNode (inner : Inner) : Parser Outline :=
  node .other do
    let _ ← optional (keyword "async")
    keyword "function"
    let _ ← optional (mark "*")
    let _ ← optional word
    inOrder [signature inner, maybe (do return [(← blockNode inner).as .body])]

/-- Words that may stand before a method. -/
def methodModifiers : List String := ["static", "async", "get", "set", "readonly"]

/-- A member of an object literal. -/
def objectMember (inner : Inner) : Parser Outline :=
  spread <|> method <|> pair <|> shorthand
where
  /-- The members of another object. -/
  spread : Parser Outline :=
    node .other do
      mark "..."
      one (inner .assignment)
  /-- A method. -/
  method : Parser Outline :=
    node .methodDefinition do
      let _ ← modifiers methodModifiers
      let _ ← optional (mark "*")
      let name ← memberName inner
      let _ ← optional (mark "?")
      let parts ← signature inner
      let body ← blockNode inner
      return name.as .name :: parts ++ [body.as .body]
  /-- A property with its value. -/
  pair : Parser Outline :=
    node .pair do
      let key ← memberName inner
      mark ":"
      let value ← inner .assignment
      return [key.as .key, value.as .value]
  /-- A property that is named after its value. -/
  shorthand : Parser Outline :=
    node .other do
      let name ← wordNode
      return name :: (← maybe (initializer inner))

/-- An object literal. -/
def objectNode (inner : Inner) : Parser Outline :=
  node .object do
    mark "\x7b"
    let items ← separated (mark ",") (do
      let before ← comments
      let member ← objectMember inner
      return before ++ [member] ++ (← comments))
    let last ← comments
    mark "\x7d"
    return items.flatten ++ last

/-- An array literal. -/
def arrayNode (inner : Inner) : Parser Outline :=
  node .other (between "[" "]" do
    let first ← maybe element
    let rest ← manyOutlines (do mark ","; maybe element)
    return first ++ rest)
where
  /-- An element, spread out or not. -/
  element : Parser (List Outline) := do
    let _ ← optional (mark "...")
    one (inner .assignment)

/-! ## Operands -/

/-- The operand that a word begins. -/
def wordOperand (inner : Inner) (classNode : Parser Outline) : Parser Outline := do
  match ← sees (keyword "function"), ← sees asyncFunction with
  | false, false =>
    if ← seesWord "class" then classNode
    else if ← seesWord "new" then newNode
    else if ← seesWord "import" then importNode
    else nameNode
  | _, _ => functionNode inner
where
  /-- The beginning of an asynchronous function. -/
  asyncFunction : Parser Unit := do
    keyword "async"
    require (!(← lineBreak))
    keyword "function"
  /-- An object that is constructed, or the target of a construction. -/
  newNode : Parser Outline :=
    node .other do
      keyword "new"
      (do mark "."; one wordNode) <|> (do
        let constructed ← inner .constructed
        let types ← maybe (typeArguments inner)
        let arguments ← maybe (one (argumentList inner))
        return constructed :: types ++ arguments)
  /-- An import by call, or the properties of the module itself. -/
  importNode : Parser Outline :=
    node .other do
      keyword "import"
      if ← seesMark "." then do
        mark "."
        let _ ← wordNode
        return []
      else do
        require (← seesMark "(")
        return []

/-- A number literal, or a point that begins none. -/
def seesNumber (c : Char) : Parser Bool := do
  if c.isDigit then return true
  else if c == '.' then return (← peekAt? 1).any Char.isDigit
  else return false

/-- An operand without what follows it. -/
def primaryNode (inner : Inner) (classNode : Parser Outline) : Parser Outline := do
  blank
  match ← peek? with
  | none => failure
  | some '(' => node .other (between "(" ")" (one (inner .expression)))
  | some '[' => arrayNode inner
  | some '\x7b' => objectNode inner
  | some '\'' => stringNode
  | some '"' => stringNode
  | some '\x60' => templateNode .other (inner .expression)
  | some '/' => regexNode
  | some '#' => privateName
  | some '@' => classNode
  | some '<' => do
    require (← read).markup
    inner .element
  | some c => do
    if ← seesNumber c then numberNode
    else do
      require (isNameStart c || c == '\\')
      wordOperand inner classNode

/-- Whether a dot comes next that is not the first of three. -/
def seesDot : Parser Bool := do
  return (← seesMark ".") && !(← seesMark "..")

/-- Whether a mark comes next that reaches into an optional value. -/
def seesOptionalDot : Parser Bool := do
  if ← seesMark "?." then
    return !(← sees (do mark "?."; charWhere Char.isDigit))
  else return false

/-- The name of a member after its dot. -/
def propertyNode : Parser Outline := do
  blank
  privateName <|> wordNode

/-- Whether the token after type arguments lets them stand alone. -/
def endsInstantiation : Parser Bool := do
  blank
  match ← peek? with
  | none => return true
  | some c => return ")],;:\x7d".toList.contains c

/-- An operand with its members, indices and calls, from the first operand on. -/
def chainFrom (inner : Inner) (calls : Bool) (start : Nat) (object : Outline) :
    Nat → Parser Outline
  | 0 => pure object
  | fuel + 1 => do
    let step : Parser Outline :=
      member <|> optionalLink <|> index <|> template <|> asserted
    let callStep : Parser Outline := if calls then call <|> genericCall else failure
    match ← optional (callStep <|> step) with
    | none => return object
    | some next => chainFrom inner calls start next fuel
where
  /-- A member after a dot. -/
  member : Parser Outline := do
    require (← seesDot)
    mark "."
    let property ← propertyNode
    nodeFrom .member start [object.as .object, property.as .property]
  /-- A member, an index or a call of a value that may be missing. -/
  optionalLink : Parser Outline := do
    require calls
    require (← seesOptionalDot)
    mark "?."
    if ← seesMark "(" then call
    else if ← seesMark "[" then index
    else if ← seesMark "<" then genericCall
    else do
      let property ← propertyNode
      nodeFrom .member start [object.as .object, property.as .property]
  /-- An element by its index. -/
  index : Parser Outline := do
    let inside ← between "[" "]" (inner .expression)
    nodeFrom .other start [object, inside]
  /-- A call. -/
  call : Parser Outline := do
    let arguments ← argumentList inner
    nodeFrom .call start [object.as .callee, arguments.as .arguments]
  /-- A template that a function is applied to. -/
  template : Parser Outline := do
    require (← seesMark "\x60")
    let arguments ← templateNode .other (inner .expression)
    nodeFrom .call start [object.as .callee, arguments.as .arguments]
  /-- A call with type arguments, or type arguments alone. -/
  genericCall : Parser Outline := do
    let types ← typeArguments inner
    if ← seesMark "(" then do
      let arguments ← argumentList inner
      nodeFrom .call start (object.as .callee :: types ++ [arguments.as .arguments])
    else if ← seesMark "\x60" then do
      let arguments ← templateNode .other (inner .expression)
      nodeFrom .call start (object.as .callee :: types ++ [arguments.as .arguments])
    else do
      require (← endsInstantiation)
      nodeFrom .other start (object :: types)
  /-- A value that is said not to be missing. -/
  asserted : Parser Outline := do
    require (!(← lineBreak))
    require (← seesMark "!")
    require (!(← seesMark "!="))
    mark "!"
    nodeFrom .other start [object]

/-- An operand with its members, indices and calls. -/
def chainNode (inner : Inner) (classNode : Parser Outline) (calls : Bool) : Parser Outline := do
  blank
  let start ← place
  let first ← primaryNode inner classNode
  chainFrom inner calls start first ((← read).text.size + 1)

/-- An operand with the operators before and after it. -/
def operandNode (inner : Inner) (classNode : Parser Outline) : Parser Outline := do
  blank
  match ← peek? with
  | none => failure
  | some c =>
    if c == '!' || c == '~' then signed (advance 1)
    else if c == '+' || c == '-' then signed (skipWhileFrom (· == c) 2)
    else if c == '<' && !(← read).markup then
      node .other do
        let type ← typeArguments inner
        return type ++ [← inner .operand]
    else if ← sees (keywordOf ["typeof", "void", "delete"]) then signed (word *> pure ())
    else (if ← seesWord "await" then awaited else failure) <|> trailed
where
  /-- An operand after an operator. -/
  signed (operator : Parser Unit) : Parser Outline :=
    node .other do
      operator
      one (inner .operand)
  /-- An operand that is waited for. -/
  awaited : Parser Outline := signed (keyword "await")
  /-- An operand that may be counted up or down. -/
  trailed : Parser Outline := do
    blank
    let start ← place
    let chain ← chainNode inner classNode true
    if !(← lineBreak) && ((← seesMark "++") || (← seesMark "--")) then do
      blank
      advance 2
      nodeFrom .other start [chain]
    else return chain

/-! ## Operators -/

/-- Operators between operands that are marks, a longer one before one that begins it. -/
def binaryMarks : List String :=
  [">>>", "===", "!==", "**", "&&", "||", "??", "==", "!=", "<=", ">=", "<<", ">>", "+", "-",
    "*", "/", "%", "&", "|", "^", "<", ">"]

/-- Whether an operator is complete although an equals sign comes after it. -/
def endsInEquals (operator : String) : Bool :=
  operator.toList.getLast? == some '='

/-- An operator between operands. -/
def binaryOperator : Parser Unit :=
  keywordOf ["in", "instanceof"] <|> (do
    let symbol ← binaryMarks.foldr
      (fun m rest => (do mark m; return m) <|> rest) failure
    if !endsInEquals symbol then require ((← peek?) != some '='))

/-- Operands with the operators between them. -/
def operationNode (inner : Inner) (operand : Parser Outline) : Parser Outline := do
  blank
  let start ← place
  let first ← operand
  let rest ← manyOutlines ((do binaryOperator; one operand) <|> cast)
  if rest.isEmpty then return first else nodeFrom .other start (first :: rest)
where
  /-- A type that an operand is taken to have. -/
  cast : Parser (List Outline) := do
    require (!(← lineBreak))
    keywordOf ["as", "satisfies"]
    one (inner .type)

/-- Operators that assign. -/
def assignmentOperator : Parser Unit :=
  (do require (← seesAssign); mark "=") <|>
  ["+=", "-=", "*=", "/=", "%=", "&=", "|=", "^=", "**=", "<<=", ">>=", ">>>=", "&&=", "||=",
    "??="].foldr (fun m rest => mark m <|> rest) failure

/-- Whether the mark of a choice comes next. -/
def seesChoice : Parser Bool := do
  return (← seesMark "?") && !(← seesMark "??") && !(← seesOptionalDot)

/-- Operands, a choice between two expressions, or an assignment. -/
def computedNode (inner : Inner) (operand : Parser Outline) : Parser Outline := do
  blank
  let start ← place
  let first ← operationNode inner operand
  if ← seesChoice then
    (do
      mark "?"
      let (yes, no) ← alternatives (inner .assignment) <|> alternatives (inner .plainAssignment)
      nodeFrom .other start [first, yes, no]) <|> pure first
  else
    (do
      assignmentOperator
      let value ← inner .assignment
      nodeFrom .other start [first, value]) <|> pure first
where
  /-- The two expressions of a choice. -/
  alternatives (p : Parser Outline) : Parser (Outline × Outline) := do
    let yes ← p
    mark ":"
    return (yes, ← inner .assignment)

/-- The value that a generator hands out. -/
def yieldNode (inner : Inner) : Parser Outline :=
  node .other do
    keyword "yield"
    let _ ← optional (mark "*")
    absent (mark "=" <|> mark ".")
    if ← lineBreak then return []
    else maybe (one (inner .assignment))

/-- One expression. -/
def assignmentNode (inner : Inner) (operand : Parser Outline) (typed : Bool) : Parser Outline := do
  let arrow : Parser Outline := do
    require (← seesArrow)
    arrowNode inner typed
  arrow <|> (do require (← seesWord "yield"); yieldNode inner) <|> computedNode inner operand

/-- Expressions between commas. -/
def expressionNode (inner : Inner) : Parser Outline := do
  blank
  let start ← place
  let first ← inner .assignment
  let rest ← manyOutlines do
    mark ","
    one (inner .assignment)
  if rest.isEmpty then return first else nodeFrom .other start (first :: rest)

end ModuleLint.TypeScript
