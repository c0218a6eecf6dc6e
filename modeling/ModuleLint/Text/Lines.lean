/-!
# Lines and pieces of a text

A text is cut into pieces at a separator, or into lines at its line boundaries. Text read from
a file first has its line ends brought to one form, a single line feed.
-/

namespace ModuleLint.Text

/-- The pieces between the occurrences of a separator. There is always at least one piece. -/
def split (sep : Char) : List Char → List (List Char)
  | [] => [[]]
  | c :: cs =>
    if c = sep then [] :: split sep cs
    else
      match split sep cs with
      | [] => [[c]]
      | piece :: pieces => (c :: piece) :: pieces

/-- Puts the pieces together again, with `sep` between each two of them. -/
def joinWith (sep : List Char) : List (List Char) → List Char
  | [] => []
  | [piece] => piece
  | piece :: pieces => piece ++ sep ++ joinWith sep pieces

/-- The parts before and after the first occurrence of `sep`, or `none` if it does not occur. -/
def cutAt? (sep : List Char) : List Char → Option (List Char × List Char)
  | [] => if sep.isEmpty then some ([], []) else none
  | c :: cs =>
    if sep.isPrefixOf (c :: cs) then some ([], (c :: cs).drop sep.length)
    else (cutAt? sep cs).map fun (before, after) => (c :: before, after)

/-- Whether a text occurs in another. -/
def occursIn (part cs : List Char) : Bool :=
  (cutAt? part cs).isSome

/-- Writes every line end, be it a carriage return, a line feed or the pair, as a line feed. -/
def unifyLineEnds : List Char → List Char
  | [] => []
  | '\r' :: '\n' :: cs => '\n' :: unifyLineEnds cs
  | '\r' :: cs => '\n' :: unifyLineEnds cs
  | c :: cs => c :: unifyLineEnds cs

/-- A character that ends a line by itself. -/
def isLineBoundary (c : Char) : Bool :=
  let n := c.toNat
  (10 ≤ n && n ≤ 13) || (28 ≤ n && n ≤ 30) || n == 0x85 || n == 0x2028 || n == 0x2029

/-- The lines of a text, where `line` holds the current line so far, last character first. A
boundary at the very end opens no further line. -/
def linesFrom (line : List Char) : List Char → List (List Char)
  | [] => if line.isEmpty then [] else [line.reverse]
  | '\r' :: '\n' :: cs => line.reverse :: linesFrom [] cs
  | c :: cs =>
    if isLineBoundary c then line.reverse :: linesFrom [] cs else linesFrom (c :: line) cs

/-- The lines of a text, without their ends. -/
def lines (cs : List Char) : List (List Char) :=
  linesFrom [] cs

/-- A split text joined at the same separator is the text itself. -/
theorem joinWith_split (sep : Char) (cs : List Char) :
    joinWith [sep] (split sep cs) = cs := by
  induction cs with
  | nil => rfl
  | cons c cs ih =>
    unfold split
    split
    · next h =>
      subst h
      cases hs : split c cs with
      | nil => simp [hs, joinWith] at ih; subst ih; simp [split] at hs
      | cons p ps => rw [hs] at ih; simp [joinWith, ih]
    · cases hs : split sep cs with
      | nil => simp [hs, joinWith] at ih; subst ih; simp [split] at hs
      | cons p ps =>
        rw [hs] at ih
        cases ps with
        | nil => simpa [joinWith] using ih
        | cons q qs => simpa [joinWith] using ih

end ModuleLint.Text
