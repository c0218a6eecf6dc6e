import ModuleLint.Text.Lines
import ModuleLint.Text.Width

/-!
# Styled text

Text for a terminal is a list of pieces, each with a style. Styles change how pieces look and
never what they say: without colour, a text is just its pieces one after the other. Tabs become
spaces up to the next multiple of eight columns, and controls that would move the cursor are
left out.
-/

namespace ModuleLint

/-- A colour of letters. -/
inductive Colour
  | red
  | green
  | yellow
  | cyan
  | white
  | brightBlack
  | brightBlue
  | brightMagenta
  | brightCyan
  deriving DecidableEq, Repr

/-- The number of a colour in an escape sequence. -/
def Colour.code : Colour → Nat
  | red => 31
  | green => 32
  | yellow => 33
  | cyan => 36
  | white => 37
  | brightBlack => 90
  | brightBlue => 94
  | brightMagenta => 95
  | brightCyan => 96

/-- How a piece of text looks. -/
structure Style where
  /-- Whether the letters are bold. -/
  bold : Bool := false
  /-- Whether the letters are dim. -/
  dim : Bool := false
  /-- Whether the letters are underlined. -/
  underlined : Bool := false
  /-- The colour of the letters, if it is not the usual one. -/
  colour : Option Colour := none
  /-- Whether the background is set to the usual one. -/
  resetsBackground : Bool := false
  deriving DecidableEq, Repr

namespace Style

/-- The style that changes nothing. -/
def plain : Style := {}

/-- Bold letters of a colour. -/
def boldIn (c : Colour) : Style := { bold := true, colour := some c }

/-- The numbers of a style in an escape sequence. -/
def codes (s : Style) : List Nat :=
  (if s.bold then [1] else []) ++ (if s.dim then [2] else []) ++
    (if s.underlined then [4] else []) ++ (s.colour.map Colour.code).toList ++
    (if s.resetsBackground then [49] else [])

/-- The escape sequence with the given numbers. -/
def escape (codes : List Nat) : List Char :=
  '\x1b' :: '[' :: (";".intercalate (codes.map toString)).toList ++ ['m']

/-- A text in a style. Nothing is written for an empty text. -/
def paint (s : Style) (cs : List Char) : List Char :=
  if cs.isEmpty || s.codes.isEmpty then cs else escape s.codes ++ cs ++ escape [0]

end Style

/-- A piece of text with its style. -/
structure Piece where
  /-- The style. -/
  style : Style
  /-- The text. -/
  text : List Char
  deriving DecidableEq, Repr

namespace Piece

/-- A piece in a style. -/
def of (style : Style) (text : String) : Piece := ⟨style, text.toList⟩

/-- A piece as it is written. -/
def write (colour : Bool) (p : Piece) : List Char :=
  if colour then p.style.paint p.text else p.text

end Piece

/-- Text with styles. -/
abbrev StyledText := List Piece

namespace StyledText

/-- Whether a terminal would move its cursor or ring a bell. -/
def isCursorControl (c : Char) : Bool :=
  let n := c.toNat
  n == 7 || n == 8 || n == 11 || n == 12 || n == 13

/-- A piece without the controls that move the cursor. -/
def withoutControls (p : Piece) : Piece :=
  ⟨p.style, p.text.filter fun c => !isCursorControl c⟩

/-- Puts a piece before the first of some lines. -/
def onFirst (p : Piece) : List StyledText → List StyledText
  | [] => [[p]]
  | line :: lines => (p :: line) :: lines

/-- The pieces of one style that the lines of a text make, where the last goes before the first
of the lines that follow. -/
def cutPiece (style : Style) (following : List StyledText) : List (List Char) → List StyledText
  | [] => following
  | [cs] => onFirst ⟨style, cs⟩ following
  | cs :: rest => [⟨style, cs⟩] :: cutPiece style following rest

/-- The lines of a text. -/
def lines : StyledText → List StyledText
  | [] => [[]]
  | p :: ps => cutPiece p.style (lines ps) (Text.split '\n' p.text)

/-- A text cut after each of its tabs. -/
def cutAfterTabs : List Char → List (List Char)
  | [] => []
  | c :: cs =>
    if c = '\t' then ['\t'] :: cutAfterTabs cs
    else
      match cutAfterTabs cs with
      | [] => [[c]]
      | part :: parts => (c :: part) :: parts

/-- How many columns a tab takes at a column. -/
def tabWidth (column : Nat) : Nat := 8 - column % 8

/-- A text that has no tab but at its end, from a column on, with spaces for that tab. -/
def expandPart (column : Nat) (cs : List Char) : List Char :=
  if cs.getLast? = some '\t' then
    let before := cs.dropLast
    before ++ List.replicate (tabWidth (column + Text.width before)) ' '
  else cs

/-- Parts of one style from a column on, with spaces for tabs, and the column after them. -/
def expandParts (style : Style) (column : Nat) : List (List Char) → List Piece × Nat
  | [] => ([], column)
  | part :: parts =>
    let text := expandPart column part
    let (rest, column) := expandParts style (column + Text.width text) parts
    (⟨style, text⟩ :: rest, column)

/-- A line from a column on, with spaces for tabs. -/
def expandTabs (column : Nat) : StyledText → StyledText
  | [] => []
  | p :: ps =>
    let (parts, column) := expandParts p.style column (cutAfterTabs p.text)
    parts ++ expandTabs column ps

/-- Whether a line has a tab. -/
def hasTab (line : StyledText) : Bool :=
  line.any fun p => p.text.contains '\t'

/-- A line as it is written. -/
def writeLine (colour : Bool) (line : StyledText) : List Char :=
  (if hasTab line then expandTabs 0 line else line).flatMap (Piece.write colour)

/-- A text as it is written, with a line feed at its end. -/
def write (colour : Bool) (text : StyledText) : List Char :=
  Text.joinWith ['\n'] ((lines (text.map withoutControls)).map (writeLine colour)) ++ ['\n']

end StyledText

end ModuleLint
