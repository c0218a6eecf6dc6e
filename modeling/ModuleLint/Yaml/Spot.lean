import ModuleLint.Yaml.Fault

/-!
# Characters in their places

A YAML text is read as the list of its characters, each with its place: how many characters
come before it, its line, and its column. A byte order mark takes no column. Lines are taken
to have their ends in one form already, so that a carriage return ends no line.
-/

namespace ModuleLint.Yaml

/-- A character and its place. -/
structure Spot where
  /-- The character. -/
  char : Char
  /-- How many characters come before it. -/
  index : Nat
  /-- Its line, counted from zero. -/
  line : Nat
  /-- Its column, counted from zero. -/
  column : Nat
  deriving Repr

/-- Characters that are still to be read. -/
abbrev Input := List Spot

/-- Whether a character may stand in a text. -/
def isPrintable (c : Char) : Bool :=
  let n := c.toNat
  n == 9 || n == 10 || n == 13 || (0x20 ≤ n && n ≤ 0x7e) || n == 0x85 ||
    (0xa0 ≤ n && n ≤ 0xd7ff) || (0xe000 ≤ n && n ≤ 0xfffd) || 0x10000 ≤ n

/-- Whether a character ends a line. -/
def isBreak (c : Char) : Bool :=
  c == '\n' || c == '\x85' || c == '\u2028' || c == '\u2029'

/-- Whether a character is a space or a tab. -/
def isGap (c : Char) : Bool :=
  c == ' ' || c == '\t'

/-- The mark at the beginning of a text that tells the order of its bytes. -/
def byteOrderMark : Char := '\ufeff'

/-- The characters of a text in their places, from the given place on. -/
def placeFrom (index line column : Nat) : List Char → Input
  | [] => []
  | c :: cs =>
    ⟨c, index, line, column⟩ ::
      if isBreak c then placeFrom (index + 1) (line + 1) 0 cs
      else placeFrom (index + 1) line (if c = byteOrderMark then column else column + 1) cs

/-- The characters of a text in their places. -/
def place (cs : List Char) : Input :=
  placeFrom 0 0 0 cs

namespace Input

/-- The next character, if there is one. -/
def next? (input : Input) : Option Char :=
  input.head?.map (·.char)

/-- The column of the next character. -/
def column (input : Input) : Nat :=
  (input.head?.map (·.column)).getD 0

/-- Whether the next character is one of the given ones. -/
def startsWithOneOf (chars : String) (input : Input) : Bool :=
  input.next?.any chars.toList.contains

/-- Whether there is no next character, or it ends the line. -/
def atLineEnd (input : Input) : Bool :=
  input.next?.all isBreak

/-- Whether there is no next character, or it is a space or ends the line. -/
def atSpaceOrEnd (input : Input) : Bool :=
  input.next?.all fun c => c == ' ' || isBreak c

/-- Whether there is no next character, or it is a space, a tab, or ends the line. -/
def atGapOrEnd (input : Input) : Bool :=
  input.next?.all fun c => isGap c || isBreak c

/-- Whether the first three characters are the given ones and stand by themselves. -/
def startsWithMark (mark : Char) : Input → Bool
  | a :: b :: c :: rest => a.char == mark && b.char == mark && c.char == mark && atGapOrEnd rest
  | _ => false

/-- Whether a mark between documents comes next. -/
def atSeparator (input : Input) : Bool :=
  input.startsWithMark '-' || input.startsWithMark '.'

/-- The characters up to the first that does not satisfy `p`, and the rest. -/
def spanChars (p : Char → Bool) : Input → List Char × Input
  | [] => ([], [])
  | s :: rest =>
    if p s.char then
      let (found, rest) := spanChars p rest
      (s.char :: found, rest)
    else ([], s :: rest)

/-- The input after the spaces at its beginning. -/
def skipSpaces (input : Input) : Input :=
  input.dropWhile fun s => s.char == ' '

/-- The input after the rest of a line that holds at most a comment, or `none` if there is more
on it. -/
def skipLine? (input : Input) : Option Input :=
  let text := input.skipSpaces
  let rest : Input :=
    if next? text == some '#' then text.dropWhile fun s => !isBreak s.char else text
  if rest.atLineEnd then some rest.tail else none

end Input

/-- What is read for a line end. -/
def breakChar (c : Char) : Char :=
  if c = '\x85' then '\n' else c

/-- The text between two lines that are folded into one, where `first` ends the upper line and
`blank` holds the ends of the empty lines between them. -/
def foldedBreak (first : Char) (blank : List Char) : List Char :=
  if breakChar first ≠ '\n' then breakChar first :: blank
  else if blank.isEmpty then [' '] else blank

end ModuleLint.Yaml
