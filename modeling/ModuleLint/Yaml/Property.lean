import ModuleLint.Text.Utf8
import ModuleLint.Yaml.Quoted

/-!
# Names, tags and directives

An anchor and an alias are names. A tag is a handle with a suffix, where the handle stands for
the beginning of the tag, or a whole tag between angle brackets. A directive gives the version
of the language or says what a handle stands for.
-/

namespace ModuleLint.Yaml

/-- A tag as it is written: its handle, if it has one, and the rest. -/
structure WrittenTag where
  /-- The handle. -/
  handle : Option String
  /-- What follows it, or the whole tag. -/
  suffix : String
  deriving DecidableEq, Repr

/-- A directive. -/
inductive Directive
  /-- The version of the language. -/
  | version (major minor : Nat)
  /-- What a handle stands for. -/
  | handle (handle expansion : String)
  /-- A directive that means nothing here. -/
  | other
  deriving DecidableEq, Repr

/-- A character of a name. -/
def isNameChar (c : Char) : Bool :=
  c.isAlphanum || c == '-' || c == '_'

/-- A character of a tag, after which an escape may follow. -/
def isTagChar (c : Char) : Bool :=
  c.isAlphanum || "-;/?:@&=+$,_.!~*'()[]%".toList.contains c

/-- The name at the beginning of the input, and the rest. -/
def nameText (input : Input) : Except Fault (String × Input) :=
  let (name, rest) := input.spanChars isNameChar
  if name.isEmpty then .error (.malformed .badName) else .ok (String.ofList name, rest)

/-- The name of an anchor or an alias, and the rest. -/
def anchorName (input : Input) : Except Fault (String × Input) := do
  let (name, rest) ← nameText input
  if Input.atGapOrEnd rest || Input.startsWithOneOf "?:,]\x7d%@\x60" rest then return (name, rest)
  else throw (.malformed .badName)

/-- The bytes of the escapes at the beginning of the input, and the rest; `fuel` bounds the
number of escapes. -/
def escapedBytes : Nat → Input → Except Fault (List UInt8 × Input)
  | 0, input => .ok ([], input)
  | fuel + 1, input =>
    if input.next? == some '%' then
      match hexNumber? 2 0 input.tail with
      | some (n, rest) =>
        (escapedBytes fuel rest).map fun (bytes, rest) => (UInt8.ofNat n :: bytes, rest)
      | none => .error (.malformed .badName)
    else .ok ([], input)

/-- The text of a tag, in which escapes stand for bytes, and the rest; `fuel` bounds the number
of pieces. -/
def tagChars : Nat → Input → Except Fault (List Char × Input)
  | 0, input => .ok ([], input)
  | fuel + 1, input =>
    match input.spanChars fun c => isTagChar c && c != '%' with
    | (run, rest) =>
      if Input.next? rest == some '%' then do
        let (bytes, rest) ← escapedBytes rest.length rest
        match Text.Utf8.decode bytes with
        | .ok cs =>
          let (more, rest) ← tagChars fuel rest
          return (run ++ cs ++ more, rest)
        | .error _ => throw (.malformed .badName)
      else .ok (run, rest)

/-- The text of a tag, which is not empty, and the rest. -/
def tagText (input : Input) : Except Fault (String × Input) := do
  let (cs, rest) ← tagChars (input.length + 1) input
  if cs.isEmpty then throw (.malformed .badName) else return (String.ofList cs, rest)

/-- The handle at the beginning of the input, which begins with an exclamation mark, and the
rest. Only the handle `!` may have no second exclamation mark. -/
def tagHandle (input : Input) : Except Fault (String × Input) :=
  match input with
  | [] => .error (.malformed .badName)
  | s :: rest =>
    if s.char ≠ '!' then .error (.malformed .badName)
    else if Input.next? rest == some ' ' then .ok ("!", rest)
    else
      match Input.spanChars isNameChar rest with
      | (name, t :: after) =>
        if t.char = '!' then .ok (String.ofList ('!' :: name ++ ['!']), after)
        else .error (.malformed .badName)
      | (_, []) => .error (.malformed .badName)

/-- Whether a tag has a second exclamation mark before the next space or line end. -/
def hasHandle (input : Input) : Bool :=
  let (word, _) := Input.spanChars (fun c => c != ' ' && !isBreak c) input
  word.contains '!'

/-- A tag after its exclamation mark, where `input` holds the mark as well. -/
def writtenTag (input : Input) : Except Fault (WrittenTag × Input) := do
  let (tag, rest) ←
    if Input.next? input.tail == some '<' then do
      let (text, rest) ← tagText input.tail.tail
      if Input.next? rest == some '>' then pure ((⟨none, text⟩ : WrittenTag), rest.tail)
      else throw (.malformed .badName)
    else if Input.atGapOrEnd input.tail then pure ((⟨none, "!"⟩ : WrittenTag), input.tail)
    else if hasHandle input.tail then do
      let (handle, rest) ← tagHandle input
      let (text, rest) ← tagText rest
      pure ((⟨some handle, text⟩ : WrittenTag), rest)
    else do
      let (text, rest) ← tagText input.tail
      pure ((⟨some "!", text⟩ : WrittenTag), rest)
  if Input.atSpaceOrEnd rest then return (tag, rest) else throw (.malformed .badName)

/-- The number that decimal digits write. -/
def decimalValue (digits : List Char) : Nat :=
  digits.foldl (fun n c => n * 10 + (c.toNat - 48)) 0

/-- The number at the beginning of the input, and the rest. -/
def directiveNumber (input : Input) : Except Fault (Nat × Input) :=
  let (digits, rest) := input.spanChars Char.isDigit
  if digits.isEmpty then .error (.malformed .badDirective)
  else .ok (decimalValue digits, rest)

/-- The version that a directive gives. -/
def versionDirective (input : Input) : Except Fault (Directive × Input) := do
  let (major, rest) ← directiveNumber input.skipSpaces
  if Input.next? rest != some '.' then throw (.malformed .badDirective)
  let (minor, rest) ← directiveNumber rest.tail
  return (.version major minor, rest)

/-- The handle that a directive defines. -/
def handleDirective (input : Input) : Except Fault (Directive × Input) := do
  let (handle, rest) ← tagHandle input.skipSpaces
  if Input.next? rest != some ' ' then throw (.malformed .badDirective)
  let (expansion, rest) ← tagText (Input.skipSpaces rest)
  return (.handle handle expansion, rest)

/-- A directive after its percent sign, and what follows its line. -/
def directive (input : Input) : Except Fault (Directive × Input) := do
  let (name, rest) ← nameText input
  if !Input.atSpaceOrEnd rest then throw (.malformed .badDirective)
  let (result, rest) ←
    if name == "YAML" then versionDirective rest
    else if name == "TAG" then handleDirective rest
    else pure (.other, rest.dropWhile fun s => !isBreak s.char)
  if !Input.atSpaceOrEnd rest then throw (.malformed .badDirective)
  match Input.skipLine? rest with
  | some rest => return (result, rest)
  | none => throw (.malformed .badDirective)

end ModuleLint.Yaml
