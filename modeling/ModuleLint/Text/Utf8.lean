import ModuleLint.Text.Quoted

/-!
# Reading UTF-8

Decodes bytes and, where they are not well formed, says which bytes are at fault and why. The
reason follows the standard's practice of blaming the longest well-formed beginning of a
sequence together with nothing of what comes after it.
-/

namespace ModuleLint.Text.Utf8

/-- Why a byte sequence is no character. -/
inductive Reason
  /-- The byte can begin no character. -/
  | start
  /-- The byte that follows does not continue the character. -/
  | continuation
  /-- The bytes end inside a character. -/
  | truncated
  deriving DecidableEq, Repr

/-- The first place where bytes fail to be UTF-8. -/
structure Fault where
  /-- Offset of the first byte at fault. -/
  offset : Nat
  /-- The bytes at fault. -/
  bytes : List UInt8
  /-- What is wrong with them. -/
  reason : Reason
  deriving DecidableEq, Repr

/-- The number of continuation bytes after a first byte and the range of the first of them; a
byte that begins no longer sequence has none. -/
def lead? (b : UInt8) : Option (Nat × Nat × Nat) :=
  let n := b.toNat
  if 0xc2 ≤ n ∧ n ≤ 0xdf then some (1, 0x80, 0xbf)
  else if n = 0xe0 then some (2, 0xa0, 0xbf)
  else if n = 0xed then some (2, 0x80, 0x9f)
  else if 0xe1 ≤ n ∧ n ≤ 0xef then some (2, 0x80, 0xbf)
  else if n = 0xf0 then some (3, 0x90, 0xbf)
  else if 0xf1 ≤ n ∧ n ≤ 0xf3 then some (3, 0x80, 0xbf)
  else if n = 0xf4 then some (3, 0x80, 0x8f)
  else none

/-- The payload of a first byte that `k` continuation bytes follow. -/
def leadBits (b : UInt8) (k : Nat) : Nat :=
  if k = 1 then b.toNat % 32 else if k = 2 then b.toNat % 16 else b.toNat % 8

/-- What the decoder carries from byte to byte. -/
structure State where
  /-- Offset of the next byte. -/
  offset : Nat := 0
  /-- Bytes of the unfinished character, last first. -/
  pending : List UInt8 := []
  /-- Continuation bytes that it still needs. -/
  missing : Nat := 0
  /-- Range of the next continuation byte. -/
  low : Nat := 0x80
  /-- Upper end of that range. -/
  high : Nat := 0xbf
  /-- Payload so far. -/
  bits : Nat := 0

/-- The fault of an unfinished character that ends too early. -/
def State.fault (s : State) (reason : Reason) : Fault :=
  ⟨s.offset - s.pending.length, s.pending.reverse, reason⟩

/-- Decodes the remaining bytes; `done` holds the characters so far, last first. -/
def decodeFrom (s : State) (done : List Char) : List UInt8 → Except Fault (List Char)
  | [] => if s.missing = 0 then .ok done.reverse else .error (s.fault .truncated)
  | b :: bs =>
    if s.missing = 0 then
      if b.toNat < 0x80 then
        decodeFrom { offset := s.offset + 1 } (Char.ofNat b.toNat :: done) bs
      else
        match lead? b with
        | none => .error ⟨s.offset, [b], .start⟩
        | some (k, low, high) =>
          decodeFrom ⟨s.offset + 1, [b], k, low, high, leadBits b k⟩ done bs
    else if s.low ≤ b.toNat ∧ b.toNat ≤ s.high then
      let bits := s.bits * 64 + b.toNat % 64
      if s.missing = 1 then decodeFrom { offset := s.offset + 1 } (Char.ofNat bits :: done) bs
      else decodeFrom ⟨s.offset + 1, b :: s.pending, s.missing - 1, 0x80, 0xbf, bits⟩ done bs
    else .error (s.fault .continuation)

/-- The characters that the bytes encode, or the first fault. -/
def decode (bytes : List UInt8) : Except Fault (List Char) :=
  decodeFrom {} [] bytes

/-- The wording of a reason. -/
def Reason.message : Reason → String
  | start => "invalid start byte"
  | continuation => "invalid continuation byte"
  | truncated => "unexpected end of data"

/-- Where a message says that the fault lies. What is cut off at the end of the bytes is counted
by itself. -/
def Fault.position (f : Fault) : Nat :=
  if f.reason = .truncated then 0 else f.offset

/-- The wording of a fault. -/
def Fault.message (f : Fault) : String :=
  let first := f.position
  "'utf-8' codec can't decode " ++
    (match f.bytes with
    | [b] =>
      "byte 0x" ++ String.ofList (hexDigits 2 b.toNat) ++ " in position " ++ toString first
    | bytes =>
      "bytes in position " ++ toString first ++ "-" ++ toString (first + bytes.length - 1)) ++
    ": " ++ f.reason.message

/-- The UTF-8 bytes of a text. -/
def encode (s : String) : List UInt8 :=
  s.toUTF8.data.toList

end ModuleLint.Text.Utf8
