import ModuleLint.TypeScript.Class

/-!
# Statements

Statements and declarations. A semicolon at the end of a statement may be missing, and what
comes after a statement is never a reason to refuse it.
-/

namespace ModuleLint.TypeScript

open ModuleLint.Syntax ModuleLint.TypeScript.Parser

/-- A semicolon, if there is one. -/
def endOfStatement : Parser Unit := do
  let _ ← optional (mark ";")

/-- A statement around what the parser reads, up to its semicolon. -/
def statementOf (p : Parser (List Outline)) : Parser Outline :=
  node .other do
    let parts ← p
    endOfStatement
    return parts

/-- An expression in parentheses, as statements have it after their first word. -/
def condition (inner : Inner) : Parser (List Outline) :=
  between "(" ")" (one (inner .expression))

/-- A variable with its type and value. -/
def declarator (inner : Inner) : Parser (List Outline) := do
  let target ← inner .binding
  let _ ← optional (mark "!")
  let parts ← inOrder [maybe (ascription inner), maybe (initializer inner)]
  return target :: parts

/-- The word that declares variables. -/
def variableWord : Parser Unit := do
  (do
    let _ ← optional (keyword "await")
    keyword "using"
    require (!(← lineBreak))
    require (← sees word)
    absent (keywordOf ["in", "of"])) <|>
  (do
    keywordOf ["var", "let", "const"]
    require (← seesBinding)
    absent (keywordOf ["in", "instanceof", "enum"]))

/-- Declared variables. -/
def variableList (inner : Inner) : Parser (List Outline) := do
  variableWord
  commaList (declarator inner)

/-- The head of a loop over a collection: what is bound and what is gone through. -/
def iteration (inner : Inner) : Parser (List Outline) := do
  let target ← (do variableWord; one (inner .binding)) <|>
    one (inner .operand)
  let parts ← maybe (ascription inner)
  keywordOf ["in", "of"]
  let whole ← inner .expression
  return target ++ parts ++ [whole]

/-- The head of a counting loop. -/
def counting (inner : Inner) : Parser (List Outline) := do
  let first ← maybe (variableList inner <|> one (inner .expression))
  mark ";"
  let test ← maybe (one (inner .expression))
  mark ";"
  let next ← maybe (one (inner .expression))
  return first ++ test ++ next

/-- A loop of the three kinds that begin with `for`. -/
def forLoop (inner : Inner) : Parser (List Outline) := do
  keyword "for"
  let _ ← optional (keyword "await")
  let head ← between "(" ")" (iteration inner) <|> between "(" ")" (counting inner)
  return head ++ [← inner .statement]

/-- A statement that is chosen by a condition. -/
def branch (inner : Inner) : Parser (List Outline) := do
  keyword "if"
  let test ← condition inner
  let yes ← inner .statement
  let no ← maybe (do
    keyword "else"
    one (inner .statement))
  return test ++ yes :: no

/-- The clauses of a selection, in braces. -/
def selection (inner : Inner) : Parser (List Outline) := do
  keyword "switch"
  let value ← condition inner
  mark "\x7b"
  let clauses ← manyOutlines (clause <|> (do
    blank
    require (!((← peek?).any (· == '\x7d')))
    one (inner .statement <|> strayToken)))
  closingBrace
  return value ++ clauses
where
  /-- The head of a clause. -/
  clause : Parser (List Outline) := do
    let value ← (do keyword "case"; one (inner .expression)) <|>
      (do keyword "default"; pure [])
    mark ":"
    return value

/-- Statements that are guarded against failure. -/
def guarded (inner : Inner) : Parser (List Outline) := do
  keyword "try"
  let body ← blockNode inner
  let handler ← maybe do
    keyword "catch"
    let caught ← maybe (between "(" ")" do
      inOrder [one (inner .binding), maybe (ascription inner)])
    return caught ++ [← blockNode inner]
  let last ← maybe do
    keyword "finally"
    one (blockNode inner)
  return body :: handler ++ last

/-- A statement that leaves something, with its value or label. -/
def leaving (inner : Inner) : Parser (List Outline) := do
  keywordOf ["return", "throw", "break", "continue", "debugger"]
  if ← lineBreak then return []
  else maybe (one (inner .expression))

/-- A loop that goes on while a condition holds. -/
def conditionLoop (inner : Inner) : Parser (List Outline) :=
  (do
    keywordOf ["while", "with"]
    let test ← condition inner
    return test ++ [← inner .statement]) <|>
  (do
    keyword "do"
    let body ← inner .statement
    keyword "while"
    return body :: (← condition inner))

/-- A statement with a label. -/
def labelled (inner : Inner) : Parser (List Outline) := do
  let _ ← word
  mark ":"
  one (inner .statement)

/-! ## Declarations -/

/-- A function declaration, which may lack a body. -/
def functionDeclaration (inner : Inner) : Parser (List Outline) := do
  require (← sees (do
    let _ ← optional (keyword "async")
    keyword "function"))
  one (functionNode inner)

/-- A named type. -/
def typeAlias (inner : Inner) : Parser (List Outline) := do
  keyword "type"
  require (!(← lineBreak))
  let _ ← word
  let parameters ← maybe (typeParameters inner)
  require (← seesAssign)
  mark "="
  return parameters ++ [← inner .type]

/-- An interface. -/
def interfaceDeclaration (inner : Inner) : Parser (List Outline) := do
  keyword "interface"
  let _ ← word
  inOrder [
    maybe (typeParameters inner),
    maybe (do keyword "extends"; commaList (one (inner .type))),
    objectType inner]

/-- An enumeration. -/
def enumDeclaration (inner : Inner) : Parser (List Outline) := do
  let _ ← optional (keyword "const")
  keyword "enum"
  let _ ← word
  between "\x7b" "\x7d" (commaList do
    inOrder [one (memberName inner), maybe (initializer inner)])

/-- A namespace or a module, which may lack a body. -/
def namespaceDeclaration (inner : Inner) : Parser (List Outline) := do
  keywordOf ["namespace", "module"]
  require (!(← lineBreak))
  (stringNode *> pure ()) <|> (do
    let _ ← word
    let _ ← many (do mark "."; word))
  maybe (one (blockNode inner))

/-- A declaration of what is defined elsewhere. -/
def ambientDeclaration (inner : Inner) : Parser (List Outline) := do
  keyword "declare"
  require (!(← lineBreak))
  (do
    keyword "global"
    one (blockNode inner)) <|>
  (do
    require (← sees (word *> pure () <|> mark "@"))
    absent (keywordOf ["in", "instanceof", "as", "satisfies"])
    one (inner .statement))

/-- The attributes of an imported module. -/
def importAttributes (inner : Inner) : Parser (List Outline) := do
  keywordOf ["with", "assert"]
  one (objectNode inner)

/-- The names in braces that are imported or exported. -/
def nameList : Parser Unit :=
  between "\x7b" "\x7d" do
    let _ ← many (word *> pure () <|> stringNode *> pure () <|> mark ",")

/-- The names that are imported. -/
def importClause : Parser Unit := do
  let _ ← separated (mark ",") (nameList <|>
    (do mark "*"; keyword "as"; let _ ← word) <|>
    (do
      let _ ← word
      -- the name may follow a word that marks the import as one of types
      let _ ← optional (do absent (keyword "from"); let _ ← word)
      let _ ← optional nameList
      let _ ← optional (do mark "*"; keyword "as"; let _ ← word)))

/-- An import. -/
def importDeclaration (inner : Inner) : Parser (List Outline) := do
  keyword "import"
  absent (mark "(" <|> mark ".")
  plain <|> named <|> assigned
where
  /-- An import for its effects. -/
  plain : Parser (List Outline) := do
    let _ ← stringNode
    maybe (importAttributes inner)
  /-- An import of names. -/
  named : Parser (List Outline) := do
    importClause
    keyword "from"
    let _ ← stringNode
    maybe (importAttributes inner)
  /-- An import of a module as a value. -/
  assigned : Parser (List Outline) := do
    let _ ← optional (keyword "type" <* absent (mark "="))
    let _ ← word
    mark "="
    one (inner .assignment)

/-- What an export hands out after its word. -/
def exported (inner : Inner) : Parser (List Outline) :=
  byDefault <|> fromModule <|> names <|> assigned <|> asNamespace <|> declared
where
  /-- A class, function, interface or value without a name of its own. -/
  byDefault : Parser (List Outline) := do
    keyword "default"
    decoratedClass <|> functionDeclaration inner <|>
      (do require (← sees (do keyword "interface"; word)); interfaceDeclaration inner) <|>
      one (inner .assignment)
  /-- Everything that a module exports. -/
  fromModule : Parser (List Outline) := do
    let _ ← optional (keyword "type")
    mark "*"
    let _ ← optional (do
      keyword "as"
      word *> pure () <|> stringNode *> pure ())
    keyword "from"
    let _ ← stringNode
    maybe (importAttributes inner)
  /-- Names in braces. -/
  names : Parser (List Outline) := do
    let _ ← optional (keyword "type")
    nameList
    maybe do
      keyword "from"
      let _ ← stringNode
      maybe (importAttributes inner)
  /-- A value that is the module. -/
  assigned : Parser (List Outline) := do
    require (← seesAssign)
    mark "="
    one (inner .expression)
  /-- A global name for the module. -/
  asNamespace : Parser (List Outline) := do
    keyword "as"
    keyword "namespace"
    let _ ← word
    return []
  /-- A declaration. -/
  declared : Parser (List Outline) := do
    decoratedClass <|> one (inner .statement)
  /-- A class with the decorators after the word. -/
  decoratedClass : Parser (List Outline) := do
    blank
    let start ← place
    let before ← decorators inner
    one (classDeclaration inner start before)

/-- An export with the decorators before it, or a class with its own. -/
def decoratedStatement (inner : Inner) : Parser Outline := do
  blank
  let start ← place
  let before ← decorators inner
  (do
    keyword "export"
    let parts ← exported inner
    endOfStatement
    nodeFrom .exportStatement start (before ++ parts)) <|>
  classDeclaration inner start before

/-- A declaration or a statement that its first word tells. -/
def wordStatement (inner : Inner) : Parser Outline := do
  let w ← nextWord
  match w with
  | "import" => statementOf (importDeclaration inner) <|> rest
  | "export" | "class" | "abstract" => decoratedStatement inner <|> rest
  | "function" | "async" => statementOf (functionDeclaration inner) <|> rest
  | "interface" => statementOf (interfaceDeclaration inner) <|> rest
  | "type" => statementOf (typeAlias inner) <|> rest
  | "const" | "enum" =>
    statementOf (enumDeclaration inner) <|> statementOf (variableList inner) <|> rest
  | "namespace" | "module" => statementOf (namespaceDeclaration inner) <|> rest
  | "declare" => statementOf (ambientDeclaration inner) <|> rest
  | "var" | "let" | "using" | "await" => statementOf (variableList inner) <|> rest
  | "if" => statementOf (branch inner) <|> rest
  | "for" => statementOf (forLoop inner) <|> rest
  | "while" | "with" | "do" => statementOf (conditionLoop inner) <|> rest
  | "switch" => statementOf (selection inner) <|> rest
  | "try" => statementOf (guarded inner) <|> rest
  | "return" | "throw" | "break" | "continue" | "debugger" =>
    statementOf (leaving inner) <|> rest
  | _ => rest
where
  /-- A labelled statement or an expression. -/
  rest : Parser Outline :=
    statementOf (labelled inner) <|> statementOf (one (inner .expression))

/-- A statement or declaration. -/
def statementNode (inner : Inner) : Parser Outline := do
  blank
  match ← peek? with
  | none => failure
  | some ';' => leaf .other (mark ";")
  | some '\x7b' => blockNode inner
  | some '@' => decoratedStatement inner
  | some c =>
    if isNameStart c then wordStatement inner
    else statementOf (one (inner .expression))

end ModuleLint.TypeScript
