import ModuleLint.Json.Value

/-!
# Reading JSON

The value that a JSON text denotes. Blanks may stand between any two tokens, and escaped UTF-16
units are paired up to the characters they encode.
-/

namespace ModuleLint.Json

/-- A blank between tokens. -/
def isSpace (c : Char) : Bool :=
  c == ' ' || c == '\n' || c == '\r' || c == '\t'

/-- The text from its next token on. -/
def skip (cs : List Char) : List Char :=
  cs.dropWhile isSpace

/-- The value of a hexadecimal digit. -/
def hexValue? (c : Char) : Option Nat :=
  if '0' ≤ c ∧ c ≤ '9' then some (c.toNat - 48)
  else if 'a' ≤ c ∧ c ≤ 'f' then some (c.toNat - 87)
  else if 'A' ≤ c ∧ c ≤ 'F' then some (c.toNat - 55)
  else none

/-- The number that four hexadecimal digits write. -/
def unit? (a b c d : Char) : Option Nat := do
  let a ← hexValue? a
  let b ← hexValue? b
  let c ← hexValue? c
  let d ← hexValue? d
  return ((a * 16 + b) * 16 + c) * 16 + d

/-- A UTF-16 unit that opens a pair. -/
def isHighUnit (n : Nat) : Bool := 0xd800 ≤ n && n ≤ 0xdbff

/-- A UTF-16 unit that closes a pair. -/
def isLowUnit (n : Nat) : Bool := 0xdc00 ≤ n && n ≤ 0xdfff

/-- The characters read so far once an open pair is known to stay open. -/
def flush (high : Option Nat) (done : List Char) : List Char :=
  match high with
  | none => done
  | some _ => Char.ofNat 0xfffd :: done

/-- The character that an escape letter stands for. -/
def escaped? (c : Char) : Option Char :=
  match c with
  | '"' => some '"'
  | '\\' => some '\\'
  | '/' => some '/'
  | 'b' => some (Char.ofNat 8)
  | 'f' => some (Char.ofNat 12)
  | 'n' => some '\n'
  | 'r' => some '\r'
  | 't' => some '\t'
  | _ => none

/-- Reads a string after its opening mark; `high` is an open UTF-16 pair and `done` holds the
characters read, last first. -/
def readString (high : Option Nat) (done : List Char) : List Char → Option (String × List Char)
  | [] => none
  | '"' :: cs => some (String.ofList (flush high done).reverse, cs)
  | '\\' :: 'u' :: a :: b :: c :: d :: cs =>
    match unit? a b c d with
    | none => none
    | some n =>
      match high with
      | some h =>
        if isLowUnit n then
          readString none
            (Char.ofNat (0x10000 + (h - 0xd800) * 0x400 + (n - 0xdc00)) :: done) cs
        else if isHighUnit n then readString (some n) (flush high done) cs
        else readString none (Char.ofNat n :: flush high done) cs
      | none =>
        if isHighUnit n then readString (some n) done cs
        else if isLowUnit n then readString none (Char.ofNat 0xfffd :: done) cs
        else readString none (Char.ofNat n :: done) cs
  | '\\' :: c :: cs =>
    match escaped? c with
    | none => none
    | some e => readString none (e :: flush high done) cs
  | c :: cs => if c.toNat < 0x20 then none else readString none (c :: flush high done) cs

/-- The number that a list of decimal digits writes. -/
def digitsValue (cs : List Char) : Nat :=
  cs.foldl (fun n c => n * 10 + (c.toNat - 48)) 0

/-- Reads the digits after a point or an exponent mark, at least one. -/
def readDigits? (cs : List Char) : Option (List Char × List Char) :=
  match cs.span Char.isDigit with
  | ([], _) => none
  | found => some found

/-- Reads the exponent of a number, if there is one. -/
def readExponent (cs : List Char) : Option (Option Int × List Char) :=
  match cs with
  | c :: rest =>
    if c = 'e' ∨ c = 'E' then
      let (negative, rest) := match rest with
        | '-' :: r => (true, r)
        | '+' :: r => (false, r)
        | r => (false, r)
      (readDigits? rest).map fun (digits, r) =>
        let n : Int := digitsValue digits
        (some (if negative then -n else n), r)
    else some (none, cs)
  | [] => some (none, [])

/-- Reads a number after its sign. -/
def readNumber (negative : Bool) (cs : List Char) : Option (Value × List Char) := do
  let (whole, rest) ← readDigits? cs
  if whole.length > 1 ∧ whole.head? = some '0' then none
  let (fraction, rest) ← match rest with
    | '.' :: r => (readDigits? r).map fun (digits, r) => (some digits, r)
    | r => some (none, r)
  let (exponent, rest) ← readExponent rest
  match fraction, exponent with
  | none, none =>
    let n : Int := digitsValue whole
    return (.int (if negative then -n else n), rest)
  | _, _ =>
    let digits := fraction.getD []
    return (.decimal negative (digitsValue (whole ++ digits))
      (exponent.getD 0 - digits.length), rest)

mutual

/-- Reads one value; `fuel` bounds the number of values and containers read. -/
def readValue : Nat → List Char → Option (Value × List Char)
  | 0, _ => none
  | fuel + 1, cs =>
    match skip cs with
    | 'n' :: 'u' :: 'l' :: 'l' :: r => some (.null, r)
    | 't' :: 'r' :: 'u' :: 'e' :: r => some (.bool true, r)
    | 'f' :: 'a' :: 'l' :: 's' :: 'e' :: r => some (.bool false, r)
    | '"' :: r => (readString none [] r).map fun (s, r) => (.string s, r)
    | '-' :: r => readNumber true r
    | '[' :: r =>
      match skip r with
      | ']' :: r => some (.array [], r)
      | r => (readItems fuel r).map fun (vs, r) => (.array vs, r)
    | '\x7b' :: r =>
      match skip r with
      | '\x7d' :: r => some (.object [], r)
      | r => (readMembers fuel r).map fun (ms, r) => (.object ms, r)
    | r => readNumber false r

/-- Reads the items of an array up to its end. -/
def readItems : Nat → List Char → Option (List Value × List Char)
  | 0, _ => none
  | fuel + 1, cs =>
    match readValue fuel cs with
    | none => none
    | some (v, r) =>
      match skip r with
      | ']' :: r => some ([v], r)
      | ',' :: r => (readItems fuel r).map fun (vs, r) => (v :: vs, r)
      | _ => none

/-- Reads the members of an object up to its end. -/
def readMembers : Nat → List Char → Option (List (String × Value) × List Char)
  | 0, _ => none
  | fuel + 1, cs =>
    match skip cs with
    | '"' :: r =>
      match readString none [] r with
      | none => none
      | some (name, r) =>
        match skip r with
        | ':' :: r =>
          match readValue fuel r with
          | none => none
          | some (v, r) =>
            match skip r with
            | '\x7d' :: r => some ([(name, v)], r)
            | ',' :: r => (readMembers fuel r).map fun (ms, r) => ((name, v) :: ms, r)
            | _ => none
        | _ => none
    | _ => none

end

/-- The value that a text denotes, if it is JSON. -/
def read (text : String) : Option Value :=
  let cs := text.toList
  match readValue (2 * cs.length + 1) cs with
  | some (v, r) => if (skip r).isEmpty then some v else none
  | none => none

end ModuleLint.Json
