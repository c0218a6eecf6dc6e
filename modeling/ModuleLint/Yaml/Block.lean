import ModuleLint.Yaml.Spot

/-!
# Block scalars

A block scalar begins with a line that says how it ends and how deeply it is indented; its text
is the indented lines below. A literal scalar keeps its line ends, a folded one turns the line
end between two lines that begin with no blank into a space.
-/

namespace ModuleLint.Yaml

/-- What becomes of the line ends at the end of a block scalar. -/
inductive Chomping
  /-- None is kept. -/
  | strip
  /-- The first is kept. -/
  | clip
  /-- All are kept. -/
  | keep
  deriving DecidableEq, Repr

/-- The first line of a block scalar. -/
structure BlockHeader where
  /-- What becomes of the last line ends. -/
  chomping : Chomping
  /-- How much deeper than its surroundings the scalar is indented, if that is said. -/
  increment : Option Nat

/-- The sign that tells the chomping. -/
def chomping? : Char → Option Chomping
  | '+' => some .keep
  | '-' => some .strip
  | _ => none

/-- The digit that tells the increment. -/
def increment? (c : Char) : Option Nat :=
  if c.isDigit then some (c.toNat - 48) else none

/-- The signs of a block scalar's first line, in either order. -/
def blockSigns (input : Input) : BlockHeader × Input :=
  match input.next?.bind chomping?, input.next?.bind increment? with
  | some chomping, _ =>
    match (Input.next? input.tail).bind increment? with
    | some n => (⟨chomping, some n⟩, input.tail.tail)
    | none => (⟨chomping, none⟩, input.tail)
  | none, some n =>
    match (Input.next? input.tail).bind chomping? with
    | some chomping => (⟨chomping, some n⟩, input.tail.tail)
    | none => (⟨.clip, some n⟩, input.tail)
  | none, none => (⟨.clip, none⟩, input)

/-- The first line of a block scalar after its indicator, and what follows the line. -/
def blockHeader (input : Input) : Except Fault (BlockHeader × Input) :=
  let (header, rest) := blockSigns input
  if header.increment = some 0 || !rest.atSpaceOrEnd then .error (.malformed .badBlockHeader)
  else
    match rest.skipLine? with
    | some rest => .ok (header, rest)
    | none => .error (.malformed .badBlockHeader)

/-- The ends of the empty lines at the beginning of the input, and what follows the indentation
of the next line. No more than `indent` columns are indentation. -/
def blockBreaks (indent : Nat) : Input → List Char × Input
  | [] => ([], [])
  | s :: rest =>
    if s.char = ' ' ∧ s.column < indent then blockBreaks indent rest
    else if isBreak s.char then
      let (breaks, rest) := blockBreaks indent rest
      (breakChar s.char :: breaks, rest)
    else ([], s :: rest)

/-- The ends of the empty lines at the beginning of the input, the largest indentation of these
lines and of the next one, and what follows it. -/
def blockIndentation : Input → List Char × Nat × Input
  | [] => ([], 0, [])
  | s :: rest =>
    if s.char = ' ' then
      let (breaks, most, rest) := blockIndentation rest
      (breaks, max most (s.column + 1), rest)
    else if isBreak s.char then
      let (breaks, most, rest) := blockIndentation rest
      (breakChar s.char :: breaks, most, rest)
    else ([], 0, s :: rest)

/-- The text of a block scalar before its end is chomped. -/
structure BlockText where
  /-- The lines but for the end of the last one. -/
  text : List Char
  /-- The end of the last line. -/
  lastBreak : List Char
  /-- The ends of the empty lines below it. -/
  breaks : List Char
  /-- What follows. -/
  rest : Input

/-- Whether a line of the scalar comes next. -/
def atBlockLine (indent : Nat) (input : Input) : Bool :=
  !input.isEmpty && input.column == indent

/-- What stands between two lines, where `lastBreak` ends the upper one, `breaks` are the ends of
empty lines between them, and `tight` tells that neither begins with a blank. -/
def blockJoint (folded tight : Bool) (lastBreak breaks : List Char) : List Char :=
  if folded && tight && lastBreak == ['\n'] then (if breaks.isEmpty then [' '] else [])
  else lastBreak

/-- Whether the next character is neither a space nor a tab. -/
def isFlush (input : Input) : Bool :=
  !(input.next?.any isGap)

/-- The lines of a block scalar, where `breaks` are the ends of the empty lines above; `fuel`
bounds the number of lines. -/
def blockLines (folded : Bool) (indent : Nat) : Nat → List Char → Input → BlockText
  | 0, breaks, input => ⟨[], [], breaks, input⟩
  | fuel + 1, breaks, input =>
    if atBlockLine indent input then
      let (line, after) := input.spanChars fun c => !isBreak c
      let lastBreak := after.next?.toList.map breakChar
      let (below, rest) := blockBreaks indent after.tail
      if atBlockLine indent rest then
        let next := blockLines folded indent fuel below rest
        let joint := blockJoint folded (isFlush input && isFlush rest) lastBreak below
        { next with text := breaks ++ line ++ joint ++ next.text }
      else ⟨breaks ++ line, lastBreak, below, rest⟩
    else ⟨[], [], breaks, input⟩

/-- The text with its end chomped. -/
def BlockText.chomp (b : BlockText) : Chomping → List Char
  | .strip => b.text
  | .clip => b.text ++ b.lastBreak
  | .keep => b.text ++ b.lastBreak ++ b.breaks

/-- The text of a block scalar after its indicator, and what follows it. The surroundings are
indented to the column before `floor`. -/
def blockText (folded : Bool) (floor : Nat) (input : Input) :
    Except Fault (List Char × Input) := do
  let (header, rest) ← blockHeader input
  let least := max 1 floor
  let (indent, breaks, rest) := match header.increment with
    | some n => (least + n - 1, blockBreaks (least + n - 1) rest)
    | none =>
      let (breaks, most, rest) := blockIndentation rest
      (max least most, breaks, rest)
  let block := blockLines folded indent (rest.length + 1) breaks rest
  return (block.chomp header.chomping, block.rest)

end ModuleLint.Yaml
