import ModuleLint.Ignore.Regex
import ModuleLint.Ignore.RegexFault
import ModuleLint.Text.CharacterNames

/-!
# Reading a bracket class

Takes the text of a bracket class in a regular expression apart into what it lists: characters, most
of which stand for themselves, escapes, and ranges between two characters.
-/

namespace ModuleLint.Ignore

open ModuleLint.Text (CharacterNames)

/-- The next token of a text: a character, or a backslash with the character after it. -/
def classToken : List Char → Option (List Char × List Char)
  | [] => none
  | '\\' :: c :: cs => some (['\\', c], cs)
  | c :: cs => some ([c], cs)

/-- What comes before the next token that is the character `stop`, and what comes after this token
if there is one. -/
def cutAtToken (stop : Char) : List Char → List Char × Option (List Char)
  | [] => ([], none)
  | '\\' :: c :: cs => (cutAtToken stop cs).map (fun taken => '\\' :: c :: taken) id
  | c :: cs => if c = stop then ([], some cs) else (cutAtToken stop cs).map (c :: ·) id

/-- Reads a name up to the token `stop`. It is a name of `what`. -/
def readName (text : RegexText) (what : String) (stop : Char) (rest : List Char) :
    Except RegexFault (List Char × List Char) :=
  match cutAtToken stop rest with
  | ([], none) => .error (faultAt text [] 0 (.missing (what ++ " name")))
  | (name, none) =>
    .error (faultAt text [] name.length (.missing (stop.toString ++ ", unterminated name")))
  | ([], some rest) => .error (faultAt text rest 1 (.missing (what ++ " name")))
  | (name, some rest) => .ok (name, rest)

/-- The value of a hexadecimal digit. -/
def hexDigitValue (c : Char) : Nat :=
  if c.isDigit then c.toNat - 48 else if 'a' ≤ c then c.toNat - 87 else c.toNat - 55

/-- Whether a character is a hexadecimal digit. -/
def isHexDigit (c : Char) : Bool :=
  c.isDigit || ('a' ≤ c && c ≤ 'f') || ('A' ≤ c && c ≤ 'F')

/-- Whether a character is an octal digit. -/
def isOctalDigit (c : Char) : Bool :=
  '0' ≤ c && c ≤ '7'

/-- The number that digits write in a base. -/
def numberIn (base : Nat) (digits : List Char) : Nat :=
  digits.foldl (fun n c => n * base + hexDigitValue c) 0

/-- At most `limit` characters from the front of a text, as long as they satisfy `p`. -/
def takeUpTo (p : Char → Bool) : Nat → List Char → List Char × List Char
  | limit + 1, c :: cs =>
    if p c then ((takeUpTo p limit cs).map (c :: ·) id) else ([], c :: cs)
  | _, cs => ([], cs)

/-- The control character that an escape letter stands for. -/
def controlEscape? (c : Char) : Option Nat :=
  match c with
  | 'a' => some 7
  | 'b' => some 8
  | 't' => some 9
  | 'n' => some 10
  | 'v' => some 11
  | 'f' => some 12
  | 'r' => some 13
  | _ => none

/-- The property that an escape letter stands for. -/
def propertyEscape? (c : Char) : Option ClassItem :=
  match c with
  | 'd' => some (.property .digit false)
  | 'D' => some (.property .digit true)
  | 's' => some (.property .blank false)
  | 'S' => some (.property .blank true)
  | 'w' => some (.property .word false)
  | 'W' => some (.property .word true)
  | _ => none

/-- Reads an escape by code point with exactly `width` hexadecimal digits. -/
def readCodeEscape (text : RegexText) (letter : Char) (width : Nat) (rest : List Char) :
    Except RegexFault (ClassItem × List Char) :=
  let (digits, rest) := takeUpTo isHexDigit width rest
  let written := String.ofList ('\\' :: letter :: digits)
  let n := numberIn 16 digits
  if digits.length ≠ width then
    .error (faultAt text rest (digits.length + 2) (.incompleteEscape written))
  else if 0x110000 ≤ n then
    .error (faultAt text rest (digits.length + 2) (.badEscape written))
  else .ok (.point n, rest)

section Names

variable [CharacterNames]

/-- Reads an escape by name. -/
def readNameEscape (text : RegexText) (rest : List Char) :
    Except RegexFault (ClassItem × List Char) :=
  match rest with
  | '\x7b' :: rest => do
    let (name, rest) ← readName text "character" '\x7d' rest
    match CharacterNames.find? (String.ofList name) with
    | some c => .ok (.point c.toNat, rest)
    | none =>
      .error (faultAt text rest (name.length + 4) (.undefinedName (String.ofList name)))
  | _ => .error (faultAt text rest 0 (.missing "\x7b"))

/-- Reads the escape whose backslash and first character `c` have been taken. -/
def readEscape (text : RegexText) (c : Char) (rest : List Char) :
    Except RegexFault (ClassItem × List Char) :=
  match controlEscape? c, propertyEscape? c with
  | some n, _ => .ok (.point n, rest)
  | none, some item => .ok (item, rest)
  | none, none =>
    if c = 'x' then readCodeEscape text c 2 rest
    else if c = 'u' then readCodeEscape text c 4 rest
    else if c = 'U' then readCodeEscape text c 8 rest
    else if c = 'N' then readNameEscape text rest
    else if isOctalDigit c then
      let (digits, rest) := takeUpTo isOctalDigit 2 rest
      let n := numberIn 8 (c :: digits)
      if 0o377 < n then
        .error (faultAt text rest (digits.length + 2)
          (.octalOutOfRange (String.ofList ('\\' :: c :: digits))))
      else .ok (.point n, rest)
    else if c.isAlphanum then
      .error (faultAt text rest 2 (.badEscape (String.ofList ['\\', c])))
    else .ok (.point c.toNat, rest)

/-- Reads what a token of a class stands for. -/
def readUnit (text : RegexText) (token rest : List Char) :
    Except RegexFault (ClassItem × List Char) :=
  match token with
  | [] => .ok (.point 0, rest)
  | [c] =>
    if c = '\\' then .error (faultAt text rest 1 .trailingBackslash)
    else .ok (.point c.toNat, rest)
  | [c, d] => if c = '\\' then readEscape text d rest else .ok (.point c.toNat, rest)
  | c :: _ => .ok (.point c.toNat, rest)

/-- The range between two items, if both are single characters in order. -/
def rangeOf? : ClassItem → ClassItem → Option ClassItem
  | .point low, .point high => if low ≤ high then some (.range low high) else none
  | _, _ => none

/-- Reads the items of the class that opened at offset `start`, up to its closing bracket; the
first item may itself be a closing bracket. Each round takes at least one character, so the
length of the text is fuel enough. -/
def readItems (text : RegexText) (start : Nat) :
    Nat → List ClassItem → List Char → Except RegexFault (List ClassItem × List Char)
  | 0, _, _ => .error ⟨.unterminatedSet, start, text⟩
  | fuel + 1, items, rest =>
    match classToken rest with
    | none => .error ⟨.unterminatedSet, start, text⟩
    | some (low, rest) =>
      if low = [']'] ∧ ¬ items.isEmpty then .ok (items.reverse, rest)
      else do
        let (item, rest) ← readUnit text low rest
        match rest with
        | '-' :: rest =>
          match classToken rest with
          | none => .error ⟨.unterminatedSet, start, text⟩
          | some (high, rest) =>
            if high = [']'] then .ok ((.point '-'.toNat :: item :: items).reverse, rest)
            else
              let (last, rest) ← readUnit text high rest
              match rangeOf? item last with
              | some range => readItems text start fuel (range :: items) rest
              | none =>
                .error (faultAt text rest (low.length + 1 + high.length)
                  (.badRange (String.ofList low) (String.ofList high)))
        | _ => readItems text start fuel (item :: items) rest

/-- Reads a class after its opening bracket. -/
def readClass (text : RegexText) (rest : List Char) :
    Except RegexFault (Atom × List Char) := do
  let start := offsetOf text rest - 1
  let (negated, rest) := match rest with
    | '^' :: r => (true, r)
    | r => (false, r)
  let (items, rest) ← readItems text start (rest.length + 1) [] rest
  return (.set negated items, rest)

end Names

end ModuleLint.Ignore
