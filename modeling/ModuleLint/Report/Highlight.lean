import ModuleLint.Report.Style
import ModuleLint.Text.Blank

/-!
# Highlighted code

A line of code is cut into lexemes, and each kind of lexeme has a style. The line is looked at
by itself, so a comment or a template that another line begins is not known. Whatever the line
holds, its lexemes are the line, cut into pieces.
-/

namespace ModuleLint.Highlight

/-- A kind of lexeme. -/
inductive Kind
  /-- A name, a mark or an operator. -/
  | other
  | blank
  | comment
  | keyword
  /-- An operator that is a word. -/
  | operatorWord
  /-- A basic type or something that every program has. -/
  | known
  | string
  | number
  /-- What begins nothing. -/
  | error
  deriving DecidableEq, Repr

/-- How a kind of lexeme looks, apart from its background. -/
def Kind.style : Kind → Style
  | other => .plain
  | blank => { colour := some .brightBlack }
  | comment => { dim := true }
  | keyword => { colour := some .brightBlue }
  | operatorWord => { colour := some .brightMagenta }
  | known => { colour := some .brightCyan }
  | string => { colour := some .yellow }
  | number => { colour := some .brightBlue }
  | error => { underlined := true, colour := some .red }

/-- What surrounds a place in a line of code. -/
inductive Mode
  /-- Code. -/
  | code
  /-- Code after something that an expression follows, where a slash begins a regular
  expression. -/
  | operand
  /-- A slash that begins nothing, up to the end of the line. -/
  | strayRegex
  /-- A template. -/
  | template
  /-- A hole of a template. -/
  | hole
  deriving DecidableEq, Repr

/-- Words that declare, control and qualify. -/
def keywords : List String :=
  ["abstract", "implements", "private", "protected", "public", "readonly", "enum", "interface",
    "override", "for", "while", "do", "break", "return", "continue", "switch", "case", "default",
    "if", "else", "throw", "try", "catch", "finally", "yield", "await", "async", "this", "of",
    "static", "export", "import", "debugger", "extends", "super", "var", "let", "const", "with",
    "function", "class"]

/-- Words after which a slash is a division. -/
def plainKeywords : List String :=
  ["byte", "char", "double", "final", "float", "goto", "int", "long", "native", "package", "short",
    "synchronized", "throws", "transient", "volatile", "true", "false", "null", "NaN", "Infinity",
    "undefined"]

/-- Words that are keywords unless a digit stands right before them. -/
def detachedKeywords : List String := ["declare", "type", "constructor", "from", "as"]

/-- Basic types. -/
def basicTypes : List String := ["string", "boolean", "number"]

/-- Operators that are words. -/
def operatorWords : List String := ["typeof", "instanceof", "in", "void", "delete", "new"]

/-- What every program has. -/
def globals : List String :=
  ["Array", "Boolean", "Date", "BigInt", "Function", "Math", "ArrayBuffer", "Number", "Object",
    "RegExp", "String", "Promise", "Proxy", "decodeURI", "decodeURIComponent", "encodeURI",
    "encodeURIComponent", "eval", "isFinite", "isNaN", "parseFloat", "parseInt", "DataView",
    "document", "window", "globalThis", "global", "Symbol", "Intl", "WeakSet", "WeakMap", "Set",
    "Map", "Reflect", "JSON", "Atomics", "Int8Array", "Int16Array", "Int32Array", "BigInt64Array",
    "Float32Array", "Float64Array", "Uint8ClampedArray", "Uint8Array", "Uint16Array",
    "Uint32Array", "BigUint64Array", "Error", "EvalError", "InternalError", "RangeError",
    "ReferenceError", "SyntaxError", "TypeError", "URIError"]

/-- A lexeme at the beginning of a text: its kind, its length, and the modes after it. -/
structure Step where
  /-- The kind. -/
  kind : Kind
  /-- The number of its characters. -/
  length : Nat
  /-- The modes after it, innermost first. -/
  modes : List Mode

/-- The number of characters at the beginning of a text that satisfy `p`. -/
def runLength (p : Char → Bool) (cs : List Char) : Nat :=
  (cs.takeWhile p).length

/-- A character that may begin a name. -/
def isNameStart (c : Char) : Bool :=
  c == '$' || c == '_' || (Text.isWord c && !Text.isDigit c)

/-- A character of a name after its first. -/
def isNamePart (c : Char) : Bool :=
  c == '$' || Text.isWord c || c == '\u200c' || c == '\u200d'

/-- A hexadecimal digit. -/
def isHexDigit (c : Char) : Bool :=
  c.isDigit || ('a' ≤ c && c ≤ 'f') || ('A' ≤ c && c ≤ 'F')

/-- The length of a name, or zero if there is none. -/
def nameLength : List Char → Nat
  | c :: cs => if isNameStart c then 1 + runLength isNamePart cs else 0
  | [] => 0

/-- The length of digits with a letter after their zero, and of the letter that marks a large
integer. -/
def basedLength (letters : List Char) (isDigit : Char → Bool) : List Char → Option Nat
  | '0' :: c :: cs =>
    let n := runLength isDigit cs
    if letters.contains c && 0 < n then
      some (2 + n + (if (cs.drop n).head? = some 'n' then 1 else 0))
    else none
  | _ => none

/-- The length of an exponent, or zero if there is none. -/
def exponentLength : List Char → Nat
  | e :: cs =>
    if e = 'e' ∨ e = 'E' then
      let sign := if cs.head? = some '+' ∨ cs.head? = some '-' then 1 else 0
      let digits := runLength Char.isDigit (cs.drop sign)
      if digits = 0 then 0 else 1 + sign + digits
    else 0
  | [] => 0

/-- The length of a decimal number, or zero if there is none. -/
def decimalLength (cs : List Char) : Nat :=
  let whole := runLength Char.isDigit cs
  let rest := cs.drop whole
  let fraction := if rest.head? = some '.' then runLength Char.isDigit rest.tail else 0
  let size :=
    if rest.head? = some '.' ∧ (0 < whole ∨ 0 < fraction) then whole + 1 + fraction else whole
  if size = 0 then 0 else size + exponentLength (cs.drop size)

/-- The length of an octal number, which has no letter or the letter `o`. -/
def octalLength (cs : List Char) : Option Nat :=
  let isOctal (c : Char) := '0' ≤ c && c ≤ '7'
  match basedLength ['o', 'O'] isOctal cs with
  | some n => some n
  | none =>
    match cs with
    | '0' :: rest =>
      let n := runLength isOctal rest
      if n = 0 then none
      else some (1 + n + (if (rest.drop n).head? = some 'n' then 1 else 0))
    | _ => none

/-- The length of a number, or zero if there is none. -/
def numberLength (cs : List Char) : Nat :=
  let based := basedLength ['b', 'B'] (fun c => c == '0' || c == '1') cs <|> octalLength cs <|>
    basedLength ['x', 'X'] isHexDigit cs
  match based with
  | some n => n
  | none =>
    let whole := runLength Char.isDigit cs
    if 0 < whole && (cs.drop whole).head? = some 'n' then whole + 1 else decimalLength cs

/-- The length of a quoted string after its opening mark with that mark, or `none` if it does
not end. -/
def quotedLength (mark : Char) : List Char → Option Nat
  | [] => none
  | '\\' :: _ :: cs => (quotedLength mark cs).map (· + 2)
  | c :: cs => if c = mark then some 1 else (quotedLength mark cs).map (· + 1)

/-- The length of the rest of a comment up to and including `*/`, or `none` if it does not
end. -/
def commentLength : List Char → Option Nat
  | '*' :: '/' :: _ => some 2
  | _ :: cs => (commentLength cs).map (· + 1)
  | [] => none

/-- The length of the rest of a regular expression up to and including its last slash, where
`inClass` tells whether a character class is open. -/
def regexLength (inClass : Bool) : List Char → Option Nat
  | '\\' :: _ :: cs => (regexLength inClass cs).map (· + 2)
  | c :: cs =>
    if c = '\\' ∨ c = '\n' then none
    else if inClass then (regexLength (c != ']') cs).map (· + 1)
    else if c = '/' then some 1
    else (regexLength (c == '[') cs).map (· + 1)
  | [] => none

/-- The length of the flags after a regular expression, or `none` if a name follows it. -/
def flagsLength (cs : List Char) : Option Nat :=
  let word := cs.takeWhile Text.isWord
  if word.all fun c => "gimuysd".toList.contains c then some word.length else none

/-- The length of a regular expression, or `none` if there is none. -/
def wholeRegexLength : List Char → Option Nat
  | '/' :: c :: cs =>
    if c = '/' then none
    else do
      let body ← regexLength false (c :: cs)
      let flags ← flagsLength ((c :: cs).drop body)
      return 1 + body + flags
  | _ => none

/-- A blank or a comment at the beginning of a text. -/
def blankStep? (modes : List Mode) (cs : List Char) : Option Step :=
  let blanks := runLength Text.isBlank cs
  if 0 < blanks then some ⟨.blank, blanks, modes⟩
  else if "<!--".toList.isPrefixOf cs then some ⟨.comment, 4, modes⟩
  else if "//".toList.isPrefixOf cs then some ⟨.comment, runLength (· != '\n') cs, modes⟩
  else
    match cs with
    | '/' :: '*' :: rest =>
      (commentLength rest).map fun n => ⟨.comment, 2 + n, modes⟩
    | _ => none

/-- A word at the beginning of a text, where `attached` tells whether a letter or a digit stands
before it. -/
def wordStep? (attached : Bool) (modes : List Mode) (cs : List Char) : Option Step :=
  let word := cs.takeWhile Text.isWord
  let name := String.ofList word
  let step (kind : Kind) (next : List Mode) : Option Step := some ⟨kind, word.length, next⟩
  if word.isEmpty then
    if nameLength cs = 0 then none else some ⟨.other, nameLength cs, modes⟩
  else if !attached && detachedKeywords.contains name then step .keyword modes
  else if !attached && basicTypes.contains name then step .known modes
  else if operatorWords.contains name then step .operatorWord (.operand :: modes)
  else if keywords.contains name then step .keyword (.operand :: modes)
  else if plainKeywords.contains name || name == "boolean" then step .keyword modes
  else if globals.contains name then step .known modes
  else if nameLength cs = 0 then none
  else some ⟨.other, nameLength cs, modes⟩

/-- The lexeme at the beginning of code, where `attached` tells whether a letter or a digit
stands before it. -/
def codeStep (attached : Bool) (modes : List Mode) : List Char → Step
  | [] => ⟨.other, 0, modes⟩
  | c :: cs =>
    let text := c :: cs
    let number := numberLength text
    if c = '@' && 0 < nameLength cs then ⟨.keyword, 1 + nameLength cs, modes⟩
    else
      match blankStep? modes text with
      | some step => step
      | none =>
        if 0 < number then ⟨.number, number, modes⟩
        else if "...".toList.isPrefixOf text then ⟨.other, 3, modes⟩
        else if "=>".toList.isPrefixOf text then ⟨.other, 2, modes⟩
        else if "+-~?:<>=!*|&%^/\x7b([;,".toList.contains c then ⟨.other, 1, .operand :: modes⟩
        else if "\x7d)].".toList.contains c then ⟨.other, 1, modes⟩
        else
          match wordStep? attached modes text with
          | some step => step
          | none =>
            if c = '"' || c = '\'' then
              match quotedLength c cs with
              | some n => ⟨.string, 1 + n, modes⟩
              | none => ⟨.error, 1, modes⟩
            else if c = '\x60' then ⟨.string, 1, .template :: modes⟩
            else if c = '#' && 0 < nameLength cs then ⟨.other, 1 + nameLength cs, modes⟩
            else ⟨.error, 1, modes⟩

/-- The lexeme at the beginning of a template. -/
def templateStep (modes : List Mode) : List Char → Step
  | '\x60' :: _ => ⟨.string, 1, modes.tail⟩
  | '\\' :: _ :: _ => ⟨.string, 2, modes⟩
  | '$' :: '\x7b' :: _ => ⟨.string, 2, .hole :: modes⟩
  | '$' :: _ => ⟨.string, 1, modes⟩
  | '\\' :: [] => ⟨.error, 1, modes⟩
  | cs => ⟨.string, runLength (fun c => c != '\x60' && c != '\\' && c != '$') cs, modes⟩

/-- What an operand begins with. -/
def operandStep (modes : List Mode) (cs : List Char) : Step :=
  match blankStep? modes cs with
  | some step => step
  | none =>
    match wholeRegexLength cs with
    | some n => ⟨.string, n, modes.tail⟩
    | none =>
      if cs.head? = some '/' then ⟨.other, 0, .strayRegex :: modes.tail⟩
      else ⟨.other, 0, modes.tail⟩

/-- The next lexeme of a text after the character `last`, which may be empty. -/
def step (last : Option Char) (modes : List Mode) (cs : List Char) : Step :=
  let attached := last.any Text.isWord
  match modes with
  | .operand :: _ => operandStep modes cs
  | .strayRegex :: outer =>
    if cs.head? = some '\n' then ⟨.blank, 1, outer⟩ else ⟨.error, 1, modes⟩
  | .template :: _ => templateStep modes cs
  | .hole :: outer =>
    if cs.head? = some '\x7d' then ⟨.string, 1, outer⟩ else codeStep attached modes cs
  | _ =>
    if last.all (· == '\n') && cs.head? = some '/' then
      -- At the beginning of a line a slash begins a comment or a regular expression.
      ⟨.other, 0, .operand :: modes⟩
    else codeStep attached modes cs

/-- The lexemes of a text after the character `last`; `fuel` bounds their number. -/
def lexemes : Nat → Option Char → List Mode → List Char → List (Kind × List Char)
  | _, _, _, [] => []
  | 0, _, _, c :: cs => [(.other, c :: cs)]
  | fuel + 1, last, modes, c :: cs =>
    let s := step last modes (c :: cs)
    let lexeme := (c :: cs).take s.length
    (s.kind, lexeme) ::
      lexemes fuel (lexeme.getLast? <|> last) s.modes ((c :: cs).drop s.length)

/-- The lexemes of a text, cut or not, are the text. -/
theorem flatMap_lexemes (fuel : Nat) (last : Option Char) (modes : List Mode) (cs : List Char) :
    (lexemes fuel last modes cs).flatMap (·.2) = cs := by
  induction fuel generalizing last modes cs with
  | zero => cases cs <;> simp [lexemes]
  | succ fuel ih =>
    cases cs with
    | nil => simp [lexemes]
    | cons c cs => simp [lexemes, ih]

/-- A text with spaces up to the next multiple of four characters for each tab, from a column
on. -/
def expandTabs (column : Nat) : List Char → List Char
  | [] => []
  | c :: cs =>
    if c = '\t' then
      List.replicate (4 - column % 4) ' ' ++ expandTabs (column + (4 - column % 4)) cs
    else c :: expandTabs (if c = '\n' then 0 else column + 1) cs

/-- Code as it is shown: without a byte order mark, with line feeds for carriage returns, and
with spaces for tabs. -/
def shown (code : List Char) : List Char :=
  let text := match code with
    | '\ufeff' :: cs => cs
    | cs => cs
  expandTabs 0 (Text.unifyLineEnds text)

/-- Joins neighbours that look like any other text. -/
def joinOthers : List (Kind × List Char) → List (Kind × List Char)
  | [] => []
  | (kind, cs) :: rest =>
    match kind, joinOthers rest with
    | .other, (.other, ds) :: rest => (.other, cs ++ ds) :: rest
    | kind, rest => (kind, cs) :: rest

/-- The style of a lexeme on a line that is dim or not. -/
def lexemeStyle (dim : Bool) (kind : Kind) : Style :=
  { kind.style with dim := kind.style.dim || dim, resetsBackground := true }

/-- Drops one line feed at the end of the last of some pieces. -/
def dropLineEnd : StyledText → StyledText
  | [] => []
  | [p] => [⟨p.style, if p.text.getLast? = some '\n' then p.text.dropLast else p.text⟩]
  | p :: ps => p :: dropLineEnd ps

/-- Code with its lexemes in their styles. -/
def highlight (dim : Bool) (code : List Char) : StyledText :=
  let text := shown code
  let text := if text.getLast? = some '\n' then text else text ++ ['\n']
  let pieces := (joinOthers (lexemes (3 * text.length + 3) none [.code] text)).map fun l =>
    (⟨lexemeStyle dim l.1, l.2⟩ : Piece)
  dropLineEnd pieces

end ModuleLint.Highlight
