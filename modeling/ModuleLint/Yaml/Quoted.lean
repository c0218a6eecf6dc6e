import ModuleLint.Yaml.Spot

/-!
# Quoted scalars

Between apostrophes only the apostrophe is special and is written twice; between quotation
marks a backslash begins an escape. Lines are folded: a line end becomes a space, and each empty
line below it a line feed.
-/

namespace ModuleLint.Yaml

/-- The ends of the empty lines at the beginning of the input, and what follows the indentation
of the next line. `atStart` tells whether a line begins here. -/
def emptyLines (atStart : Bool) : Input → Except Fault (List Char × Input)
  | [] => .ok ([], [])
  | s :: rest =>
    if atStart && Input.atSeparator (s :: rest) then .error (.malformed .unclosedQuote)
    else if isGap s.char then emptyLines false rest
    else if isBreak s.char then
      (emptyLines true rest).map fun (breaks, rest) => (breakChar s.char :: breaks, rest)
    else .ok ([], s :: rest)

/-- The character of an escape that is one letter long. -/
def escaped? : Char → Option Char
  | '0' => some '\x00'
  | 'a' => some '\x07'
  | 'b' => some '\x08'
  | 't' => some '\t'
  | '\t' => some '\t'
  | 'n' => some '\n'
  | 'v' => some '\x0b'
  | 'f' => some '\x0c'
  | 'r' => some '\r'
  | 'e' => some '\x1b'
  | ' ' => some ' '
  | '"' => some '"'
  | '\\' => some '\\'
  | '/' => some '/'
  | 'N' => some '\x85'
  | '_' => some '\xa0'
  | 'L' => some '\u2028'
  | 'P' => some '\u2029'
  | _ => none

/-- How many hexadecimal digits follow the letter of a numeric escape. -/
def escapeWidth? : Char → Option Nat
  | 'x' => some 2
  | 'u' => some 4
  | 'U' => some 8
  | _ => none

/-- The value of a hexadecimal digit. -/
def hexValue? (c : Char) : Option Nat :=
  if '0' ≤ c ∧ c ≤ '9' then some (c.toNat - 48)
  else if 'a' ≤ c ∧ c ≤ 'f' then some (c.toNat - 87)
  else if 'A' ≤ c ∧ c ≤ 'F' then some (c.toNat - 55)
  else none

/-- The number that exactly `width` hexadecimal digits write, and the rest. -/
def hexNumber? : Nat → Nat → Input → Option (Nat × Input)
  | 0, value, input => some (value, input)
  | _ + 1, _, [] => none
  | width + 1, value, s :: rest =>
    match hexValue? s.char with
    | some d => hexNumber? width (value * 16 + d) rest
    | none => none

/-- The character with a code. A code of one half of a surrogate pair is no character and
becomes the replacement character. -/
def charOfCode (code : Nat) : Except Fault Char :=
  if Nat.pow 2 31 ≤ code then .error .escapeOverflow
  else if 0x110000 ≤ code then .error .noCharacter
  else if 0xd800 ≤ code ∧ code ≤ 0xdfff then .ok '\ufffd'
  else .ok (Char.ofNat code)

/-- The text of an escape after its backslash, and the rest. -/
def escapeText : Input → Except Fault (List Char × Input)
  | [] => .error (.malformed .unknownEscape)
  | s :: rest =>
    match escaped? s.char, escapeWidth? s.char with
    | some c, _ => .ok ([c], rest)
    | none, some width =>
      match hexNumber? width 0 rest with
      | some (code, rest) => (charOfCode code).map fun c => ([c], rest)
      | none => .error (.malformed .unknownEscape)
    | none, none =>
      if isBreak s.char then emptyLines true rest else .error (.malformed .unknownEscape)

/-- The text of a gap between words, and the rest. A gap that crosses lines is folded. -/
def gapText (input : Input) : Except Fault (List Char × Input) :=
  match input.spanChars isGap with
  | (_, []) => .error (.malformed .unclosedQuote)
  | (blanks, s :: rest) =>
    if isBreak s.char then
      (emptyLines true rest).map fun (breaks, rest) => (foldedBreak s.char breaks, rest)
    else .ok (blanks, s :: rest)

/-- The text of a quoted scalar after its opening mark, and what follows its closing mark;
`fuel` bounds the number of steps. -/
def quotedFrom (double : Bool) : Nat → Input → Except Fault (List Char × Input)
  | 0, _ => .error (.malformed .unclosedQuote)
  | _ + 1, [] => .error (.malformed .unclosedQuote)
  | fuel + 1, s :: rest =>
    let continue_ (text : List Char) (rest : Input) : Except Fault (List Char × Input) :=
      (quotedFrom double fuel rest).map fun (more, rest) => (text ++ more, rest)
    if !double && s.char == '\'' then
      match rest with
      | t :: after => if t.char = '\'' then continue_ ['\''] after else .ok ([], rest)
      | [] => .ok ([], [])
    else if double && s.char == '"' then .ok ([], rest)
    else if double && s.char == '\\' then
      match escapeText rest with
      | .error fault => .error fault
      | .ok (text, rest) => continue_ text rest
    else if isGap s.char || isBreak s.char then
      match gapText (s :: rest) with
      | .error fault => .error fault
      | .ok (text, rest) => continue_ text rest
    else continue_ [s.char] rest

/-- The text of a quoted scalar after its opening mark, and what follows its closing mark. -/
def quotedText (double : Bool) (input : Input) : Except Fault (List Char × Input) :=
  quotedFrom double (input.length + 1) input

end ModuleLint.Yaml
