import ModuleLint.Json.Value
import ModuleLint.Text.Blank
import ModuleLint.Text.Lines
import ModuleLint.Yaml.Fault

/-!
# Numbers

How a scalar is told to be an integer or a number with a fraction, and its value. Integers may
be binary, octal, hexadecimal, decimal, or in sixties with colons between the places, and
underscores may stand between digits.
-/

namespace ModuleLint.Yaml

/-- A scalar without a sign before it. -/
def withoutSign : List Char → List Char
  | '+' :: cs => cs
  | '-' :: cs => cs
  | cs => cs

/-- Whether a scalar has a minus sign before it. -/
def isNegative (cs : List Char) : Bool :=
  cs.head? == some '-'

/-- A decimal digit or an underscore. -/
def isDigitOrLine (c : Char) : Bool :=
  c.isDigit || c == '_'

/-- A hexadecimal digit. -/
def isHexDigit (c : Char) : Bool :=
  c.isDigit || ('a' ≤ c && c ≤ 'f') || ('A' ≤ c && c ≤ 'F')

/-- Whether a text is a number below sixty with one digit or two. -/
def isSixtieth : List Char → Bool
  | [d] => d.isDigit
  | [t, d] => '0' ≤ t && t ≤ '5' && d.isDigit
  | _ => false

/-- Whether a text is an integer of at least two places in sixties. -/
def isSixties (cs : List Char) : Bool :=
  match Text.split ':' cs with
  | first :: second :: rest =>
    first.all isDigitOrLine && isSixtieth second && rest.all isSixtieth
  | _ => false

/-- Whether a scalar without its sign is an integer. -/
def isUnsignedInteger : List Char → Bool
  | ['0'] => true
  | '0' :: 'b' :: cs => !cs.isEmpty && cs.all fun c => c == '0' || c == '1' || c == '_'
  | '0' :: 'x' :: cs => !cs.isEmpty && cs.all fun c => isHexDigit c || c == '_'
  | '0' :: cs => cs.all fun c => ('0' ≤ c && c ≤ '7') || c == '_'
  | c :: cs => c.isDigit && (cs.all isDigitOrLine || isSixties (c :: cs))
  | [] => false

/-- Whether a scalar is an integer. -/
def isInteger (cs : List Char) : Bool :=
  isUnsignedInteger (withoutSign cs)

/-- Whether a text is an exponent with its letter and its sign. -/
def isExponent : List Char → Bool
  | e :: sign :: d :: cs =>
    (e == 'e' || e == 'E') && (sign == '+' || sign == '-') && d.isDigit && cs.all Char.isDigit
  | _ => false

/-- Whether a text is a fraction without its point, and an exponent if there is more. -/
def isFraction (cs : List Char) : Bool :=
  match cs.dropWhile isDigitOrLine with
  | [] => true
  | rest => isExponent rest

/-- Whether a scalar is a number with a fraction, or infinite, or no number. -/
def isFractional (cs : List Char) : Bool :=
  let size := withoutSign cs
  match Text.cutAt? ['.'] size with
  | none => false
  | some ([], after) =>
    let special := String.ofList after
    (special == "inf" || special == "Inf" || special == "INF") ||
      (size == cs && ((special == "nan" || special == "NaN" || special == "NAN") ||
        (after.head?.any Char.isDigit && isFraction after)))
  | some (d :: before, after) =>
    d.isDigit && ((before.all isDigitOrLine && isFraction after) ||
      (isSixties (d :: before) && after.all isDigitOrLine))

/-- The value of a digit in bases up to thirty-six. -/
def digitValue? (c : Char) : Option Nat :=
  if c.isDigit then some (c.toNat - 48)
  else if 'a' ≤ c ∧ c ≤ 'z' then some (c.toNat - 87)
  else if 'A' ≤ c ∧ c ≤ 'Z' then some (c.toNat - 55)
  else none

/-- The number that digits in a base write, after the number that digits before them write. -/
def digitsValue? (base : Nat) : Nat → List Char → Option Nat
  | n, [] => some n
  | n, c :: cs =>
    match digitValue? c with
    | some d => if d < base then digitsValue? base (n * base + d) cs else none
    | none => none

/-- The letters after a zero that tell a base. -/
def baseLetters (base : Nat) : List Char :=
  if base = 2 then ['b', 'B'] else if base = 8 then ['o', 'O']
  else if base = 16 then ['x', 'X'] else []

/-- The digits without the letter that tells the base. -/
def withoutBase (base : Nat) : List Char → List Char
  | '0' :: c :: d :: cs => if (baseLetters base).contains c then d :: cs else '0' :: c :: d :: cs
  | cs => cs

/-- The integer that a text writes in a base. Blanks may surround it, and it may have a sign. -/
def integerIn (base : Nat) (cs : List Char) : Except Fault Int :=
  let text := Text.strip cs
  let digits := withoutBase base (withoutSign text)
  match digits, digitsValue? base 0 digits with
  | _ :: _, some n => .ok (if isNegative text then -(n : Int) else n)
  | _, _ => .error (.notInteger base (String.ofList cs))

/-- Numbers in sixties as one number, the last place first. -/
def sixtiesValue : List Int → Int
  | [] => 0
  | d :: ds => d + 60 * sixtiesValue ds

/-- The integer that a scalar without its sign and its underscores writes. -/
def unsignedInteger (cs : List Char) : Except Fault Int :=
  match cs with
  | [] => .error .emptyNumber
  | ['0'] => .ok 0
  | '0' :: 'b' :: digits => integerIn 2 digits
  | '0' :: 'x' :: digits => integerIn 16 digits
  | '0' :: _ => integerIn 8 cs
  | _ =>
    if cs.contains ':' then
      ((Text.split ':' cs).mapM (integerIn 10)).map fun places => sixtiesValue places.reverse
    else integerIn 10 cs

/-- The integer that a scalar writes. -/
def integerOf (text : String) : Except Fault Int := do
  let cs := text.toList.filter (· != '_')
  if cs.isEmpty then throw .emptyNumber
  let n ← unsignedInteger (withoutSign cs)
  return if isNegative cs then -n else n

/-- The digits of a decimal as one number, and the power of ten they are scaled by. -/
def decimal? (cs : List Char) : Option (Nat × Int) :=
  let (whole, rest) := cs.span Char.isDigit
  let (fraction, rest) := match rest with
    | '.' :: after => after.span Char.isDigit
    | rest => ([], rest)
  let digits := (whole ++ fraction).foldl (fun n c => n * 10 + (c.toNat - 48)) 0
  let scaled (exponent : Int) := some (digits, exponent - fraction.length)
  if whole.isEmpty && fraction.isEmpty then none
  else
    match rest with
    | [] => scaled 0
    | e :: more =>
      let places := withoutSign more
      if e = 'e' && !places.isEmpty && places.all Char.isDigit then
        let n : Int := places.foldl (fun n c => n * 10 + (c.toNat - 48)) 0
        scaled (if isNegative more then -n else n)
      else none

/-- The number that a text in lower case writes. Blanks may surround it, and it may have a
sign. -/
def numberOf (cs : List Char) : Except Fault Float :=
  let text := Text.strip cs
  let size := withoutSign text
  let value? : Option Float :=
    if size == "inf".toList || size == "infinity".toList then some (1 / 0)
    else if size == "nan".toList then some (0 / 0)
    else (decimal? size).map fun (digits, exponent) => Json.floatOfDecimal false digits exponent
  match value? with
  | some x => .ok (if isNegative text then -x else x)
  | none => .error (.notNumber (String.ofList cs))

/-- Numbers in sixties as one number, the last place first, where a place counts `base`. -/
def sixtiesNumber (base total : Float) : List Float → Float
  | [] => total
  | d :: ds => sixtiesNumber (base * 60) (total + d * base) ds

/-- The number that a scalar writes. -/
def fractionalOf (text : String) : Except Fault Float := do
  let cs := (text.toList.filter (· != '_')).map Char.toLower
  if cs.isEmpty then throw .emptyNumber
  let size := withoutSign cs
  let x ←
    if size == ".inf".toList then pure (1 / 0)
    else if size == ".nan".toList then pure (0 / 0)
    else if size.contains ':' then
      ((Text.split ':' size).mapM numberOf).map fun places => sixtiesNumber 1 0 places.reverse
    else numberOf size
  return if isNegative cs then -x else x

end ModuleLint.Yaml
