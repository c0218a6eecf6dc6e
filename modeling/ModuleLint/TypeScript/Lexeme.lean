import ModuleLint.TypeScript.Parser

/-!
# Words and literals

The tokens of the language that are more than a mark: names, strings, numbers and regular
expressions.
-/

namespace ModuleLint.TypeScript

open ModuleLint.Syntax ModuleLint.TypeScript.Parser

/-- ASCII characters that no name holds, digits aside. -/
def isMark (c : Char) : Bool :=
  ":;\"'@#.,|^&<=>+-*/\\%?!~()[]\x7b\x7d\x60".toList.contains c

/-- A character that a name can begin with. -/
def isNameStart (c : Char) : Bool :=
  0x1f < c.toNat && !c.isDigit && !isMark c && !isSpace c

/-- A character that a name can go on with. -/
def isNamePart (c : Char) : Bool :=
  isNameStart c || c.isDigit

/-- A hexadecimal digit. -/
def isHexDigit (c : Char) : Bool :=
  c.isDigit || ('a' ≤ c && c ≤ 'f') || ('A' ≤ c && c ≤ 'F')

/-- Reads an escaped character of a name. -/
def nameEscape : Parser Unit := do
  exact ['\\', 'u']
  match ← peek? with
  | some '\x7b' =>
    advance 1
    skipWhile isHexDigit
    exact ['\x7d']
  | _ => do
    let start ← place
    skipWhileFrom isHexDigit 4
    require ((← place) == start + 4)

/-- Reads a character that satisfies `p`. -/
def charWhere (p : Char → Bool) : Parser Unit := do
  match ← peek? with
  | some c => do require (p c); advance 1
  | none => failure

/-- Reads a name and gives its text. -/
def word : Parser String := do
  blank
  let start ← place
  charWhere isNameStart <|> nameEscape
  let _ ← many (do
    let here ← place
    skipWhile isNamePart
    if (← place) == here then nameEscape)
  return String.ofList ((← read).text.extract start (← place)).toList

/-- The next word. Nothing is read. -/
def nextWord : Parser String := fun input place =>
  (word input place).map fun (w, _) => (w, place)

/-- Reads the given word. -/
def keyword (w : String) : Parser Unit := do
  let found ← word
  require (found == w)

/-- Reads one of the given words. -/
def keywordOf (ws : List String) : Parser Unit := do
  let found ← word
  require (ws.contains found)

/-- Whether the next token is the given word. -/
def seesWord (w : String) : Parser Bool := sees (keyword w)

/-- A node without children around what the parser reads. -/
def leaf (kind : Kind) (p : Parser Unit) : Parser Outline :=
  node kind (p *> pure [])

/-- Words that are values of their own and no names. -/
def isValueWord (w : String) : Bool :=
  ["this", "super", "null", "true", "false", "undefined"].contains w

/-- Words that begin or join statements and so are no names in expressions. -/
def isReserved (w : String) : Bool :=
  ["break", "case", "catch", "const", "continue", "debugger", "default", "do", "else", "enum",
    "extends", "finally", "for", "if", "in", "instanceof", "return", "switch", "throw", "try",
    "var", "while", "with"].contains w

/-- A name as an expression or a binding. -/
def nameNode : Parser Outline := do
  blank
  let start ← place
  let w ← word
  require (!isReserved w)
  nodeFrom (if isValueWord w then .other else .identifier) start []

/-- Any word as a node that is no expression. -/
def wordNode : Parser Outline := leaf .other (word *> pure ())

/-- Passes over the characters of a string up to its delimiter. -/
def stringRest (delimiter : Char) : Nat → Parser Unit
  | 0 => failure
  | fuel + 1 => do
    match ← peek? with
    | none => failure
    | some c =>
      if c = delimiter then advance 1
      else if c = '\\' then do
        match ← peekAt? 1, ← peekAt? 2 with
        | some '\r', some '\n' => advance 3
        | some _, _ => advance 2
        | none, _ => failure
        stringRest delimiter fuel
      else if c = '\n' ∨ c = '\r' then failure
      else do
        advance 1
        stringRest delimiter fuel

/-- A string literal. -/
def stringNode : Parser Outline :=
  leaf .string do
    match ← peek? with
    | some c => do
      require (c == '\'' || c == '"')
      advance 1
      stringRest c ((← read).text.size + 1)
    | none => failure

/-- A digit of a number, or the mark between digits. -/
def isDigitOrMark (c : Char) : Bool := c.isDigit || c == '_'

/-- Reads an exponent, if there is one. -/
def exponent : Parser Unit :=
  (do
    charWhere (fun c => c == 'e' || c == 'E')
    let _ ← optional (charWhere fun c => c == '+' || c == '-')
    charWhere Char.isDigit
    skipWhile isDigitOrMark) <|> pure ()

/-- Reads a number in a base that its second character names. -/
def basedNumber : Parser Unit := do
  exact ['0']
  charWhere fun c => "xXoObB".toList.contains c
  skipWhile fun c => isHexDigit c || c == '_'
  let _ ← optional (exact ['n'])

/-- Reads a decimal number. -/
def decimalNumber : Parser Unit := do
  match ← peek? with
  | some '.' => do
    advance 1
    charWhere Char.isDigit
    skipWhile isDigitOrMark
    exponent
  | _ => do
    charWhere Char.isDigit
    skipWhile isDigitOrMark
    if ← sees (exact ['n']) then advance 1
    else do
      if ← sees (exact ['.']) then do
        advance 1
        skipWhile isDigitOrMark
      exponent

/-- A number literal. -/
def numberNode : Parser Outline := leaf .other (basedNumber <|> decimalNumber)

/-- Passes over the body of a regular expression up to its closing slash. -/
def regexRest (inClass : Bool) : Nat → Parser Unit
  | 0 => failure
  | fuel + 1 => do
    match ← peek? with
    | none => failure
    | some c =>
      if endsLine c then failure
      else if c = '\\' then do advance 2; regexRest inClass fuel
      else if c = '[' then do advance 1; regexRest true fuel
      else if c = ']' then do advance 1; regexRest false fuel
      else if c = '/' ∧ !inClass then advance 1
      else do advance 1; regexRest inClass fuel

/-- A regular expression literal. -/
def regexNode : Parser Outline :=
  leaf .other do
    exact ['/']
    regexRest false ((← read).text.size + 1)
    skipWhile isNamePart

/-- A private name. -/
def privateName : Parser Outline :=
  leaf .other do
    exact ['#']
    let here ← place
    let _ ← word
    require ((← read).text[here]?.any fun c => !isSpace c)

/-- A template, with the parser for what stands in its braces. -/
def templateNode (kind : Kind) (inside : Parser Outline) : Parser Outline :=
  node kind do
    exact ['\x60']
    templateRest ((← read).text.size + 1) []
where
  /-- Passes over the characters of a template up to its end. -/
  templateRest : Nat → List Outline → Parser (List Outline)
    | 0, _ => failure
    | fuel + 1, found => do
      match ← peek?, ← peekAt? 1 with
      | some '\x60', _ => do
        advance 1
        return found.reverse
      | some '\\', _ => do advance 2; templateRest fuel found
      | some '$', some '\x7b' => do
        advance 2
        let o ← inside
        mark "\x7d"
        templateRest fuel (o :: found)
      | some _, _ => do advance 1; templateRest fuel found
      | none, _ => failure

end ModuleLint.TypeScript
