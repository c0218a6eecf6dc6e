import ModuleLint.Ignore.CharacterClass
import ModuleLint.Text.Lines

/-!
# Reading a regular expression

Takes the text of a regular expression apart. What is written for the units of a glob is made of few
things, but the body of a bracket class is copied as it is, and where it does not close the class
the text goes on with whatever the glob holds. So all that may stand in a regular expression is read
here, but for one thing: switches for a whole expression come first in it, where no glob puts them.
How deep groups are nested is not limited.
-/

namespace ModuleLint.Ignore

open ModuleLint.Text (CharacterNames)

/-- How far the reading of an expression is. -/
structure Reading where
  /-- The whole text. -/
  text : RegexText
  /-- What is left of the text. -/
  rest : List Char
  /-- The widths of the groups that have begun, and none for those that have not ended. -/
  groups : List (Option Width) := []
  /-- The names of the groups. -/
  names : List (String × Nat) := []
  /-- Within a look behind, the number of the groups that had begun before. -/
  outside? : Option Nat := none
  /-- The groups that conditions ask for, and where they first do. -/
  awaited : List (Nat × Nat) := []

/-- Reads something of an expression. -/
abbrev Reader (α : Type) := StateT Reading (Except RegexFault) α

namespace Reader

/-- Fails with a flaw at an offset. -/
def failAt {α : Type} (offset : Nat) (flaw : Flaw) : Reader α := do
  throw ⟨flaw, offset, (← get).text⟩

/-- Fails with a flaw so many characters before what is left. -/
def fail {α : Type} (back : Nat) (flaw : Flaw) : Reader α := do
  let st ← get
  throw (faultAt st.text st.rest back flaw)

/-- The offset of what is left. -/
def offset : Reader Nat := do
  let st ← get
  return offsetOf st.text st.rest

/-- Goes on with what is left then. -/
def goOn (rest : List Char) : Reader Unit :=
  modify fun st => { st with rest }

/-- Reads as a function of the whole text and of what is left does. -/
def reading {α : Type} (read : RegexText → List Char → Except RegexFault (α × List Char)) :
    Reader α := do
  let st ← get
  let (a, rest) ← read st.text st.rest
  goOn rest
  return a

/-- Takes the next token, unless the text ends. -/
def token? : Reader (Option (List Char)) := do
  match classToken (← get).rest with
  | none => return none
  | some (token, rest) =>
    goOn rest
    if token = ['\\'] then fail 1 .trailingBackslash else return some token

/-- Takes a character if it comes next. -/
def accept (c : Char) : Reader Bool := do
  match (← get).rest with
  | [] => return false
  | d :: rest => if d = c then do goOn rest; return true else return false

/-- Takes the decimal digits that come next. -/
def digits : Reader (List Char) := do
  let (digits, rest) := (← get).rest.span Char.isDigit
  goOn rest
  return digits

end Reader

open Reader

/-! ## Groups -/

/-- The width of a group, if the group has ended. -/
def Reading.width? (st : Reading) (group : Nat) : Option Width :=
  if group = 0 then none else (st.groups[group - 1]?).join

/-- Begins a group. -/
def beginGroup (name? : Option String) : Reader Nat := do
  let st ← get
  let group := st.groups.length + 1
  match name? with
  | none => set { st with groups := st.groups ++ [none] }
  | some name =>
    match st.names.lookup name with
    | some earlier => fail (name.length + 1) (.redefinedGroup name group earlier)
    | none =>
      set { st with groups := st.groups ++ [none], names := st.names ++ [(name, group)] }
  return group

/-- Ends a group. -/
def endGroup (group : Nat) (body : Regex) : Reader Unit :=
  modify fun st =>
    let width := body.width fun g => (st.width? g).getD ⟨0, some 0⟩
    { st with groups := st.groups.set (group - 1) (some width) }

/-- Refuses to mention a group within the look behind that it lies in. -/
def checkOutside (group : Nat) : Reader Unit := do
  let st ← get
  match st.outside? with
  | none => return
  | some before =>
    if (st.width? group).isNone then fail 0 .openGroup
    if before < group then fail 0 .groupInSameLookbehind

/-- The text of a group once more, where `written` characters mention it. -/
def mentionGroup (m : Mode) (group written : Nat) : Reader Regex := do
  if ((← get).width? group).isNone then fail written .openGroup
  checkOutside group
  return .again group m

/-- Reads the name of a group up to the character `stop`. -/
def readGroupName (stop : Char) : Reader String := do
  let name ← reading fun text => readName text "group" stop
  if !Text.isName name then fail (name.length + 1) (.badGroupName (String.ofList name))
  return String.ofList name

/-- The number that a text writes, with blanks around it, a sign, and low lines between its digits.
A number of more than 4300 digits is not read. -/
def wholeNumber? (written : List Char) : Option Int :=
  let (negative, written) := match Text.strip written with
    | '-' :: cs => (true, cs)
    | '+' :: cs => (false, cs)
    | cs => (false, cs)
  let parts := Text.split '_' written
  let digits := parts.flatten
  if parts.any List.isEmpty || !digits.all Text.isDigit || 4300 < digits.length then none
  else
    let n := digits.foldl (fun n c => n * 10 + Text.digitValue c) 0
    some (if negative then -n else n)

/-- The greatest number of a group, and one more. -/
def groupLimit : Nat := 1073741823

/-- The group with the given number, which a condition asks for. -/
def numberedGroup (written : List Char) : Reader Nat := do
  let back := written.length + 1
  let bad := Flaw.badGroupName (String.ofList written)
  match wholeNumber? written with
  | none => fail back bad
  | some (.negSucc _) => fail back bad
  | some (.ofNat 0) => fail back .badGroupNumber
  | some (.ofNat group) =>
    if groupLimit ≤ group then fail back (.invalidGroup group)
    let place := (← offset) - back
    modify fun st =>
      if (st.awaited.lookup group).isSome then st
      else { st with awaited := st.awaited ++ [(group, place)] }
    return group

/-- The group that a condition asks for. -/
def readCondition : Reader Nat := do
  let written ← reading fun text => readName text "group" ')'
  let group ←
    if Text.isName written then
      match (← get).names.lookup (String.ofList written) with
      | some group => pure group
      | none => fail (written.length + 1) (.unknownGroup (String.ofList written))
    else numberedGroup written
  checkOutside group
  return group

/-! ## Escapes -/

/-- The place that an escape letter stands for. -/
def anchorEscape? (c : Char) : Option Anchor :=
  match c with
  | 'A' => some .textStart
  | 'Z' => some .textEnd
  | 'b' => some .wordEdge
  | 'B' => some .notWordEdge
  | _ => none

/-- The character with a code point. -/
def pointOf (m : Mode) (n : Nat) : Regex := .one (.set false [.point n]) m

/-- Reads an escape that begins with a digit other than zero: the number of a group, or three octal
digits. -/
def readNumberEscape (m : Mode) (c : Char) : Reader Regex := do
  let mention (digits : List Char) : Reader Regex := do
    let group := numberIn 10 digits
    if (← get).groups.length < group then fail digits.length (.invalidGroup group)
    mentionGroup m group (digits.length + 1)
  match (← get).rest with
  | d :: rest =>
    if !d.isDigit then mention [c]
    else
      goOn rest
      match rest with
      | e :: rest =>
        if [c, d, e].all isOctalDigit then
          goOn rest
          let n := numberIn 8 [c, d, e]
          if 0o377 < n then fail 4 (.octalOutOfRange (String.ofList ['\\', c, d, e]))
          return pointOf m n
        else mention [c, d]
      | [] => mention [c, d]
  | [] => mention [c]

section Names

variable [CharacterNames]

/-- Reads the escape whose backslash and first character `c` have been taken, outside of classes. -/
def readOuterEscape (m : Mode) (c : Char) : Reader Regex := do
  if !c.isAlphanum then return .one (.char c) m
  match anchorEscape? c with
  | some p => return .place p m
  | none =>
    if c = '0' then
      let octal ← reading fun _ rest => .ok (takeUpTo isOctalDigit 2 rest)
      return pointOf m (numberIn 8 octal)
    else if c.isDigit then readNumberEscape m c
    else
      let item ← reading fun text => readEscape text c
      return .one (.set false [item]) m

/-! ## Repetitions -/

/-- Whether a character says how often to repeat what comes before it. -/
def isQuantifier (c : Char) : Bool :=
  c == '*' || c == '+' || c == '?' || c == '\x7b'

/-- One more than the greatest number of repetitions. -/
def repeatLimit : Nat := 4294967295

/-- The number of repetitions that digits write. -/
def repeatNumber (digits : List Char) : Reader Nat := do
  if 4300 < digits.length then fail 0 (.tooManyDigits digits.length)
  let n := numberIn 10 digits
  if repeatLimit ≤ n then fail 0 .repeatTooLarge
  return n

/-- Reads the numbers of repetitions after an opening brace, if there are any. -/
def readBounds? : Reader (Option (Nat × Option Nat)) := do
  let here ← offset
  let start := (← get).rest
  if start.head? = some '\x7d' then return none
  let low ← digits
  let high ← if ← accept ',' then digits else pure low
  if !(← accept '\x7d') then
    goOn start
    return none
  let least ← if low.isEmpty then pure 0 else repeatNumber low
  if high.isEmpty then return some (least, none)
  let most ← repeatNumber high
  if most < least then failAt here .reversedRepeat
  return some (least, some most)

/-- The numbers of repetitions that a quantifier asks for. An opening brace need not ask for any. -/
def readQuantifier? (c : Char) : Reader (Option (Nat × Option Nat)) :=
  match c with
  | '?' => return some (0, some 1)
  | '*' => return some (0, none)
  | '+' => return some (1, none)
  | _ => readBounds?

/-- Reads in which order numbers of repetitions are tried. -/
def readGreed : Reader Greed := do
  if ← accept '?' then return .lazy
  if ← accept '+' then return .possessive
  return .greedy

/-- Repeats the last of what has been read, the latest first. -/
def readRepeat (m : Mode) (c : Char) (done : List Regex) : Reader (List Regex) := do
  let place := (← offset) - 1
  match ← readQuantifier? c with
  | none => return .one (.char c) m :: done
  | some (least, most) =>
    match done with
    | [] => failAt place .nothingToRepeat
    | .place _ _ :: _ => failAt place .nothingToRepeat
    | .repeated _ _ _ _ :: _ => failAt place .multipleRepeat
    | body :: done => return .repeated (← readGreed) least most body :: done

/-! ## Switches -/

/-- Whether a character names a switch. -/
def isFlag (c : Char) : Bool :=
  "iLmsxatu".toList.contains c

/-- The switch that comes next, or the character that ends the switches. A flaw is told where
`expected` is missing. -/
def nextFlag (stops : List Char) (expected : String) : Reader Char := do
  match ← token? with
  | none => fail 0 (.missing expected)
  | some token =>
    match token with
    | [c] =>
      if stops.contains c || isFlag c then return c
      fail 1 (if Text.isLetter c then .unknownFlag else .missing expected)
    | _ => fail token.length (.missing expected)

/-- Reads the switches to be set from the first of them on, and the character after them. -/
def readSet : Nat → List Char → Char → Reader (List Char × Char)
  | 0, found, c => return (found, c)
  | fuel + 1, found, c => do
    if c = 'L' then fail 0 (.badFlags "cannot use 'L' flag with a str pattern")
    let found := found ++ [c]
    if found.contains 'a' && found.contains 'u' then
      fail 0 (.badFlags "flags 'a', 'u' and 'L' are incompatible")
    let next ← nextFlag [')', '-', ':'] "-, : or )"
    if isFlag next then readSet fuel found next else return (found, next)

/-- Reads the switches to be taken back from the first of them on, up to the colon after them. -/
def readUnset : Nat → List Char → Char → Reader (List Char)
  | 0, found, _ => return found
  | fuel + 1, found, c => do
    if c = 'a' || c = 'u' || c = 'L' then
      fail 0 (.badFlags "cannot turn off flags 'a', 'u' and 'L'")
    let found := found ++ [c]
    let next ← nextFlag [':'] ":"
    if isFlag next then readUnset fuel found next else return found

/-- A mode with some switches set and others taken back. -/
def Mode.switched (m : Mode) (on off : List Char) : Mode where
  ignoreCase := (m.ignoreCase || on.contains 'i') && !off.contains 'i'
  ascii := on.contains 'a' || (m.ascii && !on.contains 'u')
  multiline := (m.multiline || on.contains 'm') && !off.contains 'm'
  dotAll := (m.dotAll || on.contains 's') && !off.contains 's'
  verbose := (m.verbose || on.contains 'x') && !off.contains 'x'

/-- Reads the switches of the group that began at `start`, from the first character of them on. -/
def readFlags (start : Nat) (m : Mode) (c : Char) : Reader Mode := do
  let fuel := (← get).rest.length + 1
  let (on, stop) ← if c = '-' then pure ([], c) else readSet fuel [] c
  if stop = ')' then failAt start .misplacedFlags
  if on.contains 't' then fail 1 (.badFlags "cannot turn on global flag")
  let off ←
    if stop = '-' then do readUnset fuel [] (← nextFlag [] "flag")
    else pure []
  if off.contains 't' then fail 1 (.badFlags "cannot turn off global flag")
  if on.any off.contains then fail 1 (.badFlags "flag turned on and off")
  return m.switched on off

/-! ## Expressions -/

/-- How expressions inside of a group are read. -/
structure Inner where
  /-- Reads alternatives. -/
  choice : Mode → Reader Regex
  /-- Reads a single alternative. -/
  sequence : Mode → Reader Regex

/-- What comes after a comment up to the end of its group. -/
def afterComment? (cs : List Char) : Option (List Char) := (cutAtToken ')' cs).2

/-- What comes after a comment up to the end of its line. -/
def afterLine (cs : List Char) : List Char := ((cutAtToken '\n' cs).2).getD []

/-- Whether a character means nothing where blanks mean nothing. -/
def isPadding (c : Char) : Bool :=
  c == ' ' || (9 ≤ c.toNat && c.toNat ≤ 13)

/-- Reads the end of the group that began at `start`. -/
def closeGroup (start : Nat) : Reader Unit := do
  if !(← accept ')') then failAt start (.missing "), unterminated subpattern")

/-- Reads a group whose text is kept, up to its end. -/
def readCaptured (inner : Inner) (start : Nat) (m : Mode) (name? : Option String) :
    Reader Regex := do
  let group ← beginGroup name?
  let body ← inner.choice m
  closeGroup start
  endGroup group body
  return .captured group body

/-- Reads a group whose text is not kept, up to its end. -/
def readPlain (inner : Inner) (start : Nat) (m : Mode) : Reader Regex := do
  let body ← inner.choice m
  closeGroup start
  return body

/-- Reads a group that looks ahead, up to its end. -/
def readAhead (inner : Inner) (start : Nat) (m : Mode) (positive : Bool) : Reader Regex := do
  return .looking none positive (← readPlain inner start m)

/-- Reads a group that looks behind, up to its end. -/
def readBehind (inner : Inner) (start : Nat) (m : Mode) (positive : Bool) : Reader Regex := do
  let outside? := (← get).outside?
  modify fun st => { st with outside? := some (outside?.getD st.groups.length) }
  let body ← inner.choice m
  modify fun st => { st with outside? }
  closeGroup start
  let st ← get
  return .looking (some (body.width fun g => (st.width? g).getD ⟨0, some 0⟩)) positive body

/-- Reads a group with a condition, up to its end. -/
def readGiven (inner : Inner) (start : Nat) (m : Mode) : Reader Regex := do
  let group ← readCondition
  let yes ← inner.sequence m
  let no ←
    if ← accept '|' then do
      let no ← inner.sequence m
      if (← get).rest.head? = some '|' then fail 0 .tooManyBranches
      pure no
    else pure .nothing
  closeGroup start
  return .given group yes no

/-- Reads what begins with `(?P`. -/
def readNamed (inner : Inner) (start : Nat) (m : Mode) : Reader Regex := do
  if ← accept '<' then
    let name ← readGroupName '>'
    readCaptured inner start m (some name)
  else if ← accept '=' then
    let name ← readGroupName ')'
    match (← get).names.lookup name with
    | none => fail (name.length + 1) (.unknownGroup name)
    | some group => mentionGroup m group (name.length + 1)
  else
    match ← token? with
    | none => fail 0 .unexpectedEnd
    | some token => fail (token.length + 2) (.unknownExtension ("P" ++ String.ofList token))

/-- Reads what begins with `(?<`. -/
def readLookbehind (inner : Inner) (start : Nat) (m : Mode) : Reader Regex := do
  match ← token? with
  | none => fail 0 .unexpectedEnd
  | some ['='] => readBehind inner start m true
  | some ['!'] => readBehind inner start m false
  | some token => fail (token.length + 2) (.unknownExtension ("<" ++ String.ofList token))

/-- Reads a group after its opening parenthesis, up to its end. A comment is nothing. -/
def readGroup (inner : Inner) (m : Mode) : Reader (Option Regex) := do
  let start := (← offset) - 1
  if !(← accept '?') then some <$> readCaptured inner start m none
  else
    match ← token? with
    | none => fail 0 .unexpectedEnd
    | some token =>
      match token with
      | [':'] => some <$> readPlain inner start m
      | ['P'] => some <$> readNamed inner start m
      | ['#'] =>
        match afterComment? (← get).rest with
        | some rest => do goOn rest; return none
        | none => failAt start (.missing "), unterminated comment")
      | ['='] => some <$> readAhead inner start m true
      | ['!'] => some <$> readAhead inner start m false
      | ['<'] => some <$> readLookbehind inner start m
      | ['('] => some <$> readGiven inner start m
      | ['>'] => some <$> Regex.alone <$> readPlain inner start m
      | [c] =>
        if isFlag c || c == '-' then
          some <$> (do readPlain inner start (← readFlags start m c))
        else fail 2 (.unknownExtension (String.ofList token))
      | _ => fail (token.length + 1) (.unknownExtension (String.ofList token))

/-- Reads what comes next in a sequence and begins with `c`, which has been taken. What has been
read is listed with the latest first. -/
def readNext (inner : Inner) (m : Mode) (c : Char) (done : List Regex) : Reader (List Regex) := do
  if m.verbose && isPadding c then return done
  else if m.verbose && c == '#' then
    goOn (afterLine (← get).rest)
    return done
  else if c = '\\' then
    match (← get).rest with
    | [] => fail 1 .trailingBackslash
    | d :: rest =>
      goOn rest
      return (← readOuterEscape m d) :: done
  else if c = '[' then
    let atom ← reading readClass
    return .one atom m :: done
  else if isQuantifier c then readRepeat m c done
  else if c = '(' then return (← readGroup inner m).toList ++ done
  else if c = '.' then return .one .any m :: done
  else if c = '^' then return .place .lineStart m :: done
  else if c = '$' then return .place .lineEnd m :: done
  else return .one (.char c) m :: done

/-- What has been read, one after the other; the latest is listed first. -/
def inOrder (done : List Regex) : Regex :=
  done.foldl (fun rest r => .andThen r rest) .nothing

/-- Reads a sequence in at most `fuel` rounds. Each of them takes at least one character. -/
def readSequence (inner : Inner) (m : Mode) : Nat → List Regex → Reader Regex
  | 0, done => return inOrder done
  | fuel + 1, done => do
    match (← get).rest with
    | [] => return inOrder done
    | c :: rest =>
      if c = '|' || c = ')' then return inOrder done
      else
        goOn rest
        readSequence inner m fuel (← readNext inner m c done)

/-- Reads alternatives, at most one more than `fuel`. A stroke comes between each two. -/
def readChoice (inner : Inner) (m : Mode) : Nat → Reader Regex
  | 0 => do readSequence inner m ((← get).rest.length + 1) []
  | fuel + 1 => do
    let first ← readSequence inner m ((← get).rest.length + 1) []
    if ← accept '|' then return .either first (← readChoice inner m fuel) else return first

/-- Reads expressions in which groups are nested less than `depth` deep. -/
def nested : Nat → Inner
  | 0 => ⟨fun _ => return .nothing, fun _ => return .nothing⟩
  | depth + 1 =>
    { choice := fun m => do readChoice (nested depth) m (← get).rest.length
      sequence := fun m => do readSequence (nested depth) m ((← get).rest.length + 1) [] }

/-- What is wrong with the first part of an expression that looks behind, if it cannot. -/
def Regex.blindSpot? : Regex → Option Flaw
  | nothing | one _ _ | place _ _ | again _ _ => none
  | andThen first second | either first second | given _ first second =>
    first.blindSpot?.or second.blindSpot?
  | repeated _ _ _ body | captured _ body | alone body | looking none _ body => body.blindSpot?
  | looking (some width) _ body =>
    if repeatLimit < width.least then some .lookbehindTooFar
    else if width.most ≠ some width.least then some .lookbehindWithoutWidth
    else body.blindSpot?

/-- The regular expression that a text holds, or its first fault. Groups are nested less deep than
the text is long. -/
def readRegex (text : RegexText) : Except RegexFault Regex := do
  let (r, st) ← (nested (text.length + 1)).choice {} { text, rest := text }
  if !st.rest.isEmpty then throw (faultAt text st.rest 0 .unbalancedParenthesis)
  match st.awaited.find? fun (group, _) => st.groups.length < group with
  | some (group, place) => throw ⟨.invalidGroup group, place, text⟩
  | none => pure ()
  match r.blindSpot? with
  | some flaw => throw ⟨flaw, 0, text⟩
  | none => return r

end Names

end ModuleLint.Ignore
