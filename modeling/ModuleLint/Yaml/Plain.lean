import ModuleLint.Yaml.Spot

/-!
# Plain scalars

A scalar without quotes ends before a colon that ends a key, before a comment, and inside
brackets before a bracket or a comma. It may go on over several lines as long as these are
indented deeply enough; lines are folded.
-/

namespace ModuleLint.Yaml

/-- Whether a plain scalar ends before a character, where `rest` follows the character. -/
def endsPlain (inFlow : Bool) (c : Char) (rest : Input) : Bool :=
  isGap c || isBreak c ||
    (c == ':' && (rest.atGapOrEnd || (inFlow && rest.startsWithOneOf ",[]\x7b\x7d"))) ||
    (inFlow && ",?[]\x7b\x7d".toList.contains c)

/-- The characters of a plain scalar up to a gap or its end, and the rest. -/
def plainRun (inFlow : Bool) : Input → List Char × Input
  | [] => ([], [])
  | s :: rest =>
    if endsPlain inFlow s.char rest then ([], s :: rest)
    else
      let (run, rest) := plainRun inFlow rest
      (s.char :: run, rest)

/-- A gap in a plain scalar. -/
structure PlainGap where
  /-- The text that the gap stands for. -/
  text : List Char
  /-- What follows it. -/
  rest : Input
  /-- Whether it crosses a line end. -/
  crossesLine : Bool
  /-- Whether a mark between documents ends the scalar. -/
  atSeparator : Bool

/-- The ends of the empty lines at the beginning of the input, what follows the spaces of the
next line, and whether a mark between documents comes first. `atStart` tells whether a line
begins here. -/
def plainBreaks (atStart : Bool) : Input → List Char × Input × Bool
  | [] => ([], [], false)
  | s :: rest =>
    if atStart && Input.atSeparator (s :: rest) then ([], s :: rest, true)
    else if s.char = ' ' then plainBreaks false rest
    else if isBreak s.char then
      let (breaks, rest, separated) := plainBreaks true rest
      (breakChar s.char :: breaks, rest, separated)
    else ([], s :: rest, false)

/-- The gap at the beginning of the input. -/
def plainGap (input : Input) : PlainGap :=
  let (blanks, after) := input.spanChars (· == ' ')
  match after with
  | s :: rest =>
    if isBreak s.char then
      let (breaks, rest, separated) := plainBreaks true rest
      ⟨foldedBreak s.char breaks, rest, true, separated⟩
    else ⟨blanks, after, false, false⟩
  | [] => ⟨blanks, [], false, false⟩

/-- Whether a plain scalar goes on after a gap. Outside of brackets it must be indented at
least to `floor`. -/
def PlainGap.goesOn (gap : PlainGap) (inFlow : Bool) (floor : Nat) : Bool :=
  !gap.atSeparator && !gap.text.isEmpty && gap.rest.next? != some '#' &&
    (inFlow || floor ≤ gap.rest.column) && !(plainRun inFlow gap.rest).1.isEmpty

/-- The text of a plain scalar, what follows it and the gap after it, and whether that gap
crosses a line end; `fuel` bounds the number of gaps. -/
def plainFrom (inFlow : Bool) (floor : Nat) : Nat → Input → List Char × Input × Bool
  | 0, input => ([], input, false)
  | fuel + 1, input =>
    let (run, rest) := plainRun inFlow input
    let gap := plainGap rest
    if gap.goesOn inFlow floor then
      let (more, rest, crossed) := plainFrom inFlow floor fuel gap.rest
      (run ++ gap.text ++ more, rest, crossed)
    else (run, gap.rest, gap.crossesLine)

/-- The text of a plain scalar, what follows it and the gap after it, and whether that gap
crosses a line end. -/
def plainText (inFlow : Bool) (floor : Nat) (input : Input) : List Char × Input × Bool :=
  plainFrom inFlow floor (input.length + 1) input

end ModuleLint.Yaml
