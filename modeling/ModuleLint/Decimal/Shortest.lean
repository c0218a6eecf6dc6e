/-!
# The shortest decimal of a binary number

A binary floating-point number stands for every real that rounds to it. Of the decimals among
those reals, the shortest is the one with the fewest digits, and of these the one nearest to
the number itself.
-/

namespace ModuleLint.Decimal

/-- The number `digits * 10 ^ exponent`. -/
structure Scaled where
  /-- The digits, read as one number. -/
  digits : Nat
  /-- The power of ten they are scaled by. -/
  exponent : Int
  deriving DecidableEq, Repr

/-- The reals from `low / scale` to `high / scale`, which all round to `value / scale`. -/
structure Interval where
  /-- Numerator of the lower end. -/
  low : Nat
  /-- Numerator of the number itself. -/
  value : Nat
  /-- Numerator of the upper end. -/
  high : Nat
  /-- The common denominator. -/
  scale : Nat
  /-- Whether the ends round to the number as well. -/
  closed : Bool
  deriving Repr

/-- The reals that round to `m * 2 ^ q`. Below a power of two the neighbours are half as far
apart, which `narrow` tells. -/
def Interval.ofBinary (m : Nat) (q : Int) (narrow : Bool) : Interval :=
  let shift := (q - 2).toNat
  let low := 4 * m - (if narrow then 1 else 2)
  ⟨low <<< shift, (4 * m) <<< shift, (4 * m + 2) <<< shift, 1 <<< (2 - q).toNat, m % 2 = 0⟩

/-- `d * 10 ^ k` and the interval's numerators brought to one denominator, as the pair of the
decimal's numerator and the factor for the interval's. -/
def Interval.onGrid (i : Interval) (k : Int) (d : Nat) : Nat × Nat :=
  (d * Nat.pow 10 k.toNat * i.scale, Nat.pow 10 (-k).toNat)

/-- Whether the interval holds `d * 10 ^ k`. -/
def Interval.holds (i : Interval) (k : Int) (d : Nat) : Bool :=
  let (x, factor) := i.onGrid k d
  if i.closed then i.low * factor ≤ x && x ≤ i.high * factor
  else i.low * factor < x && x < i.high * factor

/-- The distance of `d * 10 ^ k` from the number, in units that depend on `k` alone. -/
def Interval.distance (i : Interval) (k : Int) (d : Nat) : Nat :=
  let (x, factor) := i.onGrid k d
  let value := i.value * factor
  if x ≤ value then value - x else x - value

/-- The multiples of `10 ^ k` next to the number that round to it, the nearer one if both do
and the even one if they are equally near. -/
def Interval.onGrid? (i : Interval) (k : Int) : Option Nat :=
  let below := i.value * Nat.pow 10 (-k).toNat / (i.scale * Nat.pow 10 k.toNat)
  let above := below + 1
  match i.holds k below, i.holds k above with
  | true, false => some below
  | false, true => some above
  | false, false => none
  | true, true =>
    let a := i.distance k below
    let b := i.distance k above
    if a < b ∨ (a = b ∧ below % 2 = 0) then some below else some above

/-- The number of decimal digits of a natural number. -/
def digitCount (n : Nat) : Nat :=
  (Nat.toDigits 10 n).length

/-- The least `j`, at most `fuel`, for which `10 ^ j` times the number is at least one. -/
def Interval.leadingZeros (i : Interval) : Nat → Nat → Nat
  | 0, j => j
  | fuel + 1, j =>
    if i.scale ≤ i.value * Nat.pow 10 j then j else i.leadingZeros fuel (j + 1)

/-- The exponent of the power of ten at or below the number. -/
def Interval.magnitude (i : Interval) : Int :=
  if i.scale ≤ i.value then (digitCount (i.value / i.scale) : Int) - 1
  else -(i.leadingZeros 400 1 : Int)

/-- The first grid, from coarse to fine, that has a point in the interval. -/
def Interval.firstHit (i : Interval) (magnitude : Int) : Nat → Nat → Scaled
  | 0, count =>
    let k := magnitude + 1 - count
    ⟨i.value * Nat.pow 10 (-k).toNat / (i.scale * Nat.pow 10 k.toNat), k⟩
  | fuel + 1, count =>
    let k := magnitude + 1 - count
    match i.onGrid? k with
    | some d => ⟨d, k⟩
    | none => i.firstHit magnitude fuel (count + 1)

/-- Drops the zeros at the end of the digits, at most `fuel` of them. -/
def Scaled.trim : Nat → Scaled → Scaled
  | 0, d => d
  | fuel + 1, d =>
    if d.digits ≠ 0 ∧ d.digits % 10 = 0 then Scaled.trim fuel ⟨d.digits / 10, d.exponent + 1⟩ else d

/-- The shortest decimal that rounds to the number of the interval. -/
def Interval.shortest (i : Interval) : Scaled :=
  (i.firstHit i.magnitude 17 1).trim 20

/-- The shortest decimal of the absolute value of a finite number. -/
def ofFloat (x : Float) : Scaled :=
  let bits : Nat := x.toBits.toNat % Nat.pow 2 63
  let exponent : Nat := bits / Nat.pow 2 52
  let fraction : Nat := bits % Nat.pow 2 52
  if bits = 0 then ⟨0, 0⟩
  else if exponent = 0 then (Interval.ofBinary fraction (-1074) false).shortest
  else
    (Interval.ofBinary (Nat.pow 2 52 + fraction) (Int.ofNat exponent - 1075)
      (fraction = 0 ∧ exponent ≠ 1)).shortest

end ModuleLint.Decimal
