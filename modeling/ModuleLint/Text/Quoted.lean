import ModuleLint.Text.Tables

/-!
# Quoted texts

The written form of a text in a message: between apostrophes, or between quotation marks if it
holds an apostrophe and no quotation mark, with escapes for the delimiter, the backslash and
every character that has no visible form.
-/

namespace ModuleLint.Text

/-- The lower-case hexadecimal digit of a number below sixteen. -/
def hexDigit (n : Nat) : Char :=
  if n < 10 then Char.ofNat (48 + n) else Char.ofNat (87 + n)

/-- The last `width` hexadecimal digits of `n`, the highest first. -/
def hexDigits : Nat → Nat → List Char
  | 0, _ => []
  | width + 1, n => hexDigits width (n / 16) ++ [hexDigit (n % 16)]

/-- The escape of a character by its code point, in the shortest of the three widths. -/
def codeEscape (c : Char) : List Char :=
  let n := c.toNat
  if n < 0x100 then '\\' :: 'x' :: hexDigits 2 n
  else if n < 0x10000 then '\\' :: 'u' :: hexDigits 4 n
  else '\\' :: 'U' :: hexDigits 8 n

/-- A character as it stands between two `delimiter`s. -/
def quotedChar (delimiter c : Char) : List Char :=
  if c = delimiter ∨ c = '\\' then ['\\', c]
  else if c = '\n' then ['\\', 'n']
  else if c = '\r' then ['\\', 'r']
  else if c = '\t' then ['\\', 't']
  else if isVisible c then [c]
  else codeEscape c

/-- The delimiter that a text is quoted with. -/
def delimiterFor (cs : List Char) : Char :=
  if '\'' ∈ cs ∧ '"' ∉ cs then '"' else '\''

/-- The quoted form of a text. -/
def quoted (s : String) : String :=
  let cs := s.toList
  let delimiter := delimiterFor cs
  String.ofList (delimiter :: cs.flatMap (quotedChar delimiter) ++ [delimiter])

/-- One byte of a quoted byte string: visible ASCII stands for itself. -/
def quotedByte (delimiter : Char) (b : UInt8) : List Char :=
  let c := Char.ofNat b.toNat
  if c = delimiter ∨ c = '\\' then ['\\', c]
  else if c = '\n' then ['\\', 'n']
  else if c = '\r' then ['\\', 'r']
  else if c = '\t' then ['\\', 't']
  else if 0x20 ≤ b.toNat ∧ b.toNat < 0x7f then [c]
  else '\\' :: 'x' :: hexDigits 2 b.toNat

/-- The quoted form of a byte string, marked by a leading `b`. -/
def quotedBytes (bytes : List UInt8) : String :=
  let cs := bytes.map fun b => Char.ofNat b.toNat
  let delimiter := delimiterFor cs
  String.ofList ('b' :: delimiter :: bytes.flatMap (quotedByte delimiter) ++ [delimiter])

end ModuleLint.Text
