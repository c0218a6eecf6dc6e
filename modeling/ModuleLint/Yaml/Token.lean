import ModuleLint.Yaml.Block
import ModuleLint.Yaml.Plain
import ModuleLint.Yaml.Property

/-!
# Tokens

A text is cut into tokens, which show its structure: where collections and their items begin
and end. Outside of brackets a collection is open as long as its lines are indented deeply
enough. What turns out to be a key only when its colon is met gets its token afterwards, and
so does the mapping that it begins.
-/

namespace ModuleLint.Yaml

/-- A piece of a text. -/
inductive Token
  | directive (d : Directive)
  | documentStart
  | documentEnd
  | blockSequenceStart
  | blockMappingStart
  | blockEnd
  | flowSequenceStart
  | flowSequenceEnd
  | flowMappingStart
  | flowMappingEnd
  /-- The dash before an item. -/
  | blockEntry
  /-- The comma between items. -/
  | flowEntry
  | key
  | value
  | alias_ (name : String)
  | anchor (name : String)
  | tag (tag : WrittenTag)
  /-- A scalar, which may be written without quotes. -/
  | scalar (plain : Bool) (text : String)
  deriving DecidableEq, Repr

/-- A place where something begins that may turn out to be a key. -/
structure KeyPlace where
  /-- How many tokens come before it. -/
  token : Nat
  /-- Whether nothing but a key can stand there. -/
  required : Bool
  /-- How many characters come before it. -/
  index : Nat
  /-- Its line. -/
  line : Nat
  /-- Its column. -/
  column : Nat
  deriving Repr

/-- What is known between two tokens. -/
structure Reading where
  /-- The tokens so far, last first. -/
  tokens : List Token := []
  /-- One more than the column of the innermost block collection, and zero outside of all. -/
  floor : Nat := 0
  /-- The same for the collections around it, innermost first. -/
  outerFloors : List Nat := []
  /-- Whether a key may begin here. -/
  keyAllowed : Bool := true
  /-- The place of a possible key inside the innermost brackets. -/
  keyPlace : Option KeyPlace := none
  /-- The same for the brackets around them, innermost first. -/
  outerKeys : List (Option KeyPlace) := []

namespace Reading

/-- Whether brackets are open. -/
def inFlow (r : Reading) : Bool :=
  !r.outerKeys.isEmpty

/-- Adds a token. -/
def push (r : Reading) (t : Token) : Reading :=
  { r with tokens := t :: r.tokens }

/-- Adds a token before those after the first `count`. -/
def insertAt (r : Reading) (count : Nat) (t : Token) : Reading :=
  let later := r.tokens.length - count
  { r with tokens := r.tokens.take later ++ t :: r.tokens.drop later }

/-- Closes the block collections whose floor is above `floor`, where `fuel` bounds their
number. -/
def closeBlocksFrom (floor : Nat) : Nat → Reading → Reading
  | 0, r => r
  | fuel + 1, r =>
    if floor < r.floor then
      closeBlocksFrom floor fuel
        { r.push .blockEnd with
          floor := r.outerFloors.headD 0, outerFloors := r.outerFloors.tail }
    else r

/-- Closes the block collections whose floor is above `floor`. Inside brackets indentation does
not matter. -/
def closeBlocks (floor : Nat) (r : Reading) : Reading :=
  if r.inFlow then r else closeBlocksFrom floor (r.outerFloors.length + 1) r

/-- Opens a block collection at a column unless one is open there; its first token goes after
the first `count` tokens. -/
def openBlock (column count : Nat) (first : Token) (r : Reading) : Reading :=
  if r.floor ≤ column then
    { r.insertAt count first with floor := column + 1, outerFloors := r.floor :: r.outerFloors }
  else r

/-- Gives up a place of a key, which must not be required. -/
def dropKey (r : Reading) : Except Fault Reading :=
  match r.keyPlace with
  | some place =>
    if place.required then .error (.malformed .missingColon) else .ok { r with keyPlace := none }
  | none => .ok r

/-- Whether a key that begins at `place` can no longer end at the next character. -/
def isStale (next : Spot) (place : KeyPlace) : Bool :=
  place.line != next.line || place.index + 1024 < next.index

/-- Gives up the places of keys that began too far back. -/
def dropStaleKeys (next : Spot) (r : Reading) : Except Fault Reading :=
  let stale := (r.keyPlace :: r.outerKeys).filterMap fun p => p.filter (isStale next)
  if stale.any (·.required) then .error (.malformed .missingColon)
  else
    let fresh (p : Option KeyPlace) := p.filter fun k => !isStale next k
    .ok { r with keyPlace := fresh r.keyPlace, outerKeys := r.outerKeys.map fresh }

/-- Notes that a key may begin at the next character. -/
def noteKey (next : Spot) (r : Reading) : Except Fault Reading :=
  if r.keyAllowed then do
    let place : KeyPlace := {
      token := r.tokens.length
      required := !r.inFlow && r.floor == next.column + 1
      index := next.index
      line := next.line
      column := next.column }
    let r ← r.dropKey
    return { r with keyPlace := some place }
  else .ok r

/-- Adds a directive or a mark between documents. -/
def pushMark (t : Token) (r : Reading) : Except Fault Reading := do
  let r ← (r.closeBlocks 0).dropKey
  return { r.push t with keyAllowed := false }

/-- Opens brackets. -/
def openBracket (next : Spot) (t : Token) (r : Reading) : Except Fault Reading := do
  let r ← r.noteKey next
  return { r.push t with
    keyAllowed := true, keyPlace := none, outerKeys := r.keyPlace :: r.outerKeys }

/-- Closes brackets. -/
def closeBracket (t : Token) (r : Reading) : Except Fault Reading := do
  let r ← r.dropKey
  match r.outerKeys with
  | [] => throw (.malformed .unmatchedBracket)
  | place :: outer =>
    return { r.push t with keyAllowed := false, keyPlace := place, outerKeys := outer }

/-- Adds a comma. -/
def pushComma (r : Reading) : Except Fault Reading := do
  let r ← r.dropKey
  return { r.push .flowEntry with keyAllowed := true }

/-- Opens a block collection at the next character, unless brackets are open. -/
def openHere (next : Spot) (first : Token) (r : Reading) : Except Fault Reading :=
  if r.inFlow then .ok r
  else if r.keyAllowed then .ok (r.openBlock next.column r.tokens.length first)
  else .error (.malformed .misplaced)

/-- Adds a dash. -/
def pushDash (next : Spot) (r : Reading) : Except Fault Reading := do
  let r ← (← r.openHere next .blockSequenceStart).dropKey
  return { r.push .blockEntry with keyAllowed := true }

/-- Adds the mark of a key. -/
def pushKey (next : Spot) (r : Reading) : Except Fault Reading := do
  let r ← (← r.openHere next .blockMappingStart).dropKey
  return { r.push .key with keyAllowed := !r.inFlow }

/-- Adds the mark of a value. What stands at the place of a possible key is its key. -/
def pushValue (next : Spot) (r : Reading) : Except Fault Reading :=
  match r.keyPlace with
  | some place =>
    let r := { r.insertAt place.token .key with keyPlace := none }
    let r := if r.inFlow then r else r.openBlock place.column place.token .blockMappingStart
    .ok { r.push .value with keyAllowed := false }
  | none => do
    let r ← (← r.openHere next .blockMappingStart).dropKey
    return { r.push .value with keyAllowed := !r.inFlow }

/-- Adds something that may be a key or the beginning of one. -/
def pushContent (next : Spot) (t : Token) (r : Reading) : Except Fault Reading := do
  let r ← r.noteKey next
  return { r.push t with keyAllowed := false }

/-- Adds a block scalar. -/
def pushBlockScalar (t : Token) (r : Reading) : Except Fault Reading := do
  let r ← r.dropKey
  return { r.push t with keyAllowed := true }

/-- The reading at the end of the text. -/
def finish (r : Reading) : Except Fault (List Token) := do
  let r ← (r.closeBlocks 0).dropKey
  return r.tokens.reverse

end Reading

/-- Whether a plain scalar begins with a character, where `rest` follows it. -/
def beginsPlain (inFlow : Bool) (c : Char) (rest : Input) : Bool :=
  !(isGap c || isBreak c || "-?:,[]\x7b\x7d#&*!|>'\"%@\x60".toList.contains c) ||
    (!rest.atGapOrEnd && (c == '-' || (!inFlow && (c == '?' || c == ':'))))

/-- The input after spaces, comments and line ends, and whether a line end was among them.
`inComment` tells whether a comment has begun. -/
def skipToToken (inComment : Bool) : Input → Input × Bool
  | [] => ([], false)
  | s :: rest =>
    if isBreak s.char then ((skipToToken false rest).1, true)
    else if inComment then skipToToken true rest
    else if s.char = ' ' || (s.index == 0 && s.char == byteOrderMark) then skipToToken false rest
    else if s.char = '#' then skipToToken true rest
    else (s :: rest, false)

/-- Reads the token that begins with `s`, which `rest` follows. -/
def readToken (s : Spot) (rest : Input) (r : Reading) : Except Fault (Reading × Input) := do
  let input : Input := s :: rest
  let indicator (r : Except Fault Reading) : Except Fault (Reading × Input) :=
    r.map fun r => (r, rest)
  let ends := Input.atGapOrEnd rest
  if s.column == 0 && s.char == '%' then
    let (d, rest) ← directive rest
    return (← r.pushMark (.directive d), rest)
  else if s.column == 0 && input.startsWithMark '-' then
    return (← r.pushMark .documentStart, input.drop 3)
  else if s.column == 0 && input.startsWithMark '.' then
    return (← r.pushMark .documentEnd, input.drop 3)
  else
    match s.char with
    | '[' => indicator (r.openBracket s .flowSequenceStart)
    | '\x7b' => indicator (r.openBracket s .flowMappingStart)
    | ']' => indicator (r.closeBracket .flowSequenceEnd)
    | '\x7d' => indicator (r.closeBracket .flowMappingEnd)
    | ',' => indicator r.pushComma
    | '*' =>
      let (name, rest) ← anchorName rest
      return (← r.pushContent s (.alias_ name), rest)
    | '&' =>
      let (name, rest) ← anchorName rest
      return (← r.pushContent s (.anchor name), rest)
    | '!' =>
      let (tag, rest) ← writtenTag input
      return (← r.pushContent s (.tag tag), rest)
    | '\'' =>
      let (text, rest) ← quotedText false rest
      return (← r.pushContent s (.scalar false (String.ofList text)), rest)
    | '"' =>
      let (text, rest) ← quotedText true rest
      return (← r.pushContent s (.scalar false (String.ofList text)), rest)
    | c =>
      if c = '-' && ends then indicator (r.pushDash s)
      else if c = '?' && (r.inFlow || ends) then indicator (r.pushKey s)
      else if c = ':' && (r.inFlow || ends) then indicator (r.pushValue s)
      else if (c = '|' || c = '>') && !r.inFlow then
        let (text, rest) ← blockText (c == '>') r.floor rest
        return (← r.pushBlockScalar (.scalar false (String.ofList text)), rest)
      else if beginsPlain r.inFlow c rest then
        let (text, rest, crossed) := plainText r.inFlow r.floor input
        let r ← r.pushContent s (.scalar true (String.ofList text))
        return ({ r with keyAllowed := crossed }, rest)
      else throw (.malformed (.unexpectedCharacter c))

/-- The tokens of a text after a reading; `fuel` bounds their number. -/
def tokensFrom : Nat → Reading → Input → Except Fault (List Token)
  | 0, r, _ => r.finish
  | fuel + 1, r, input => do
    let (rest, crossed) := skipToToken false input
    let r := if crossed && !r.inFlow then { r with keyAllowed := true } else r
    match rest with
    | [] => r.finish
    | s :: rest =>
      let r ← r.dropStaleKeys s
      let (r, rest) ← readToken s rest (r.closeBlocks (s.column + 1))
      tokensFrom fuel r rest

/-- The tokens of a text. -/
def tokens (cs : List Char) : Except Fault (List Token) :=
  match cs.find? fun c => !isPrintable c with
  | some c => .error (.malformed (.unprintable c))
  | none => tokensFrom (cs.length + 1) {} (place cs)

end ModuleLint.Yaml
