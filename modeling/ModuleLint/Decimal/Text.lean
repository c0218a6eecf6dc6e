import ModuleLint.Decimal.Shortest

/-!
# Written numbers

How a message writes a floating-point number: the shortest digits that read back, positional
from one ten-thousandth up to ten to the sixteenth, with an exponent elsewhere.
-/

namespace ModuleLint.Decimal

/-- The decisions of a number format. -/
structure Format where
  /-- The least power of ten that is written positionally. -/
  positionalFrom : Int
  /-- The least power of ten above it that is written with an exponent again. -/
  positionalBelow : Int
  /-- The least number of digits of an exponent. -/
  exponentDigits : Nat

/-- The format of numbers in messages. -/
def messageFormat : Format := ⟨-4, 16, 2⟩

/-- A natural number with at least `width` digits. -/
def padded (width n : Nat) : String :=
  let digits := Nat.toDigits 10 n
  String.ofList (List.replicate (width - digits.length) '0' ++ digits)

/-- A decimal in the given format. -/
def Scaled.write (format : Format) (d : Scaled) : String :=
  let digits := Nat.toDigits 10 d.digits
  let count := digits.length
  let magnitude : Int := d.exponent + count - 1
  if d.digits = 0 then "0.0"
  else if format.positionalFrom ≤ magnitude ∧ magnitude < format.positionalBelow then
    if 0 ≤ d.exponent then
      String.ofList (digits ++ List.replicate d.exponent.toNat '0') ++ ".0"
    else if 0 ≤ magnitude then
      let whole := (magnitude + 1).toNat
      String.ofList (digits.take whole ++ '.' :: digits.drop whole)
    else
      String.ofList ('0' :: '.' :: List.replicate (-magnitude - 1).toNat '0' ++ digits)
  else
    let fraction := match digits.drop 1 with
      | [] => []
      | rest => '.' :: rest
    let sign := if magnitude < 0 then '-' else '+'
    String.ofList (digits.take 1 ++ fraction ++ ['e', sign]) ++
      padded format.exponentDigits magnitude.natAbs

/-- A floating-point number as messages write it. -/
def floatText (x : Float) : String :=
  if x.isNaN then "nan"
  else
    let sign := if Nat.pow 2 63 ≤ x.toBits.toNat then "-" else ""
    if x.isInf then sign ++ "inf" else sign ++ (ofFloat x).write messageFormat

end ModuleLint.Decimal
