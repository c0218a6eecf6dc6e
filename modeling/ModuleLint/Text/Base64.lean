/-!
# Base 64

Four characters of an alphabet of sixty-four stand for three bytes. Characters outside of the
alphabet are passed over.
-/

namespace ModuleLint.Text.Base64

/-- The value of a character of the alphabet. -/
def value? (c : Char) : Option Nat :=
  if 'A' ≤ c ∧ c ≤ 'Z' then some (c.toNat - 65)
  else if 'a' ≤ c ∧ c ≤ 'z' then some (c.toNat - 71)
  else if '0' ≤ c ∧ c ≤ '9' then some (c.toNat + 4)
  else if c = '+' then some 62
  else if c = '/' then some 63
  else none

/-- What is known between two characters. -/
structure State where
  /-- How many characters of the current four have been read. -/
  count : Nat := 0
  /-- The bits that no byte has yet. -/
  bits : Nat := 0
  /-- How many padding characters came last. -/
  pads : Nat := 0

/-- The bytes that the remaining characters stand for, or `none` if they end within a group of
four or are padded wrongly. -/
def decodeFrom (s : State) : List Char → Option (List UInt8)
  | [] => if s.count = 0 then some [] else none
  | c :: cs =>
    if c = '=' then
      let pads := s.pads + 1
      if 2 ≤ s.count ∧ 4 ≤ s.count + pads then some []
      else decodeFrom { s with pads } cs
    else
      match value? c with
      | none => decodeFrom s cs
      | some v =>
        if s.count = 0 then decodeFrom ⟨1, v, 0⟩ cs
        else if s.count = 1 then
          (decodeFrom ⟨2, v % 16, 0⟩ cs).map (UInt8.ofNat (s.bits * 4 + v / 16) :: ·)
        else if s.count = 2 then
          (decodeFrom ⟨3, v % 4, 0⟩ cs).map (UInt8.ofNat (s.bits * 16 + v / 4) :: ·)
        else (decodeFrom {} cs).map (UInt8.ofNat (s.bits * 64 + v) :: ·)

/-- The bytes that a text stands for. -/
def decode? (cs : List Char) : Option (List UInt8) :=
  decodeFrom {} cs

end ModuleLint.Text.Base64
