import ModuleLint.Data

/-!
# The order of keys

Numbers, texts, byte strings, days and times each have an order among themselves, and nothing
has an order across these kinds. So a list of keys can be put in order only if it holds at most
one key or keys of one kind.
-/

namespace ModuleLint

namespace Date

/-- The days from the first of March of the year zero to the day. -/
def dayNumber (d : Date) : Int :=
  let year : Int := if d.month ≤ 2 then (d.year : Int) - 1 else d.year
  let month : Nat := (d.month + 9) % 12
  365 * year + Int.fdiv year 4 - Int.fdiv year 100 + Int.fdiv year 400 +
    ((153 * month + 2) / 5 : Nat) + d.day

end Date

namespace Moment

/-- The millionths of a second from a fixed time to the moment, as its own clock tells unless
it says how far ahead it is. -/
def instant (m : Moment) : Int :=
  let seconds := m.date.dayNumber * 86400 + (m.hour * 3600 + m.minute * 60 + m.second : Nat) -
    m.offset.getD 0
  seconds * 1000000 + m.micro

end Moment

/-- The kinds of values that have an order among themselves. -/
inductive OrderKind
  | number
  | text
  | bytes
  | date
  | localMoment
  | moment
  deriving DecidableEq, Repr

namespace Data

/-- The kind of a value, if it has an order at all. -/
def orderKind? : Data → Option OrderKind
  | bool _ | int _ | float _ => some .number
  | text _ => some .text
  | bytes _ => some .bytes
  | date _ => some .date
  | moment m => some (if m.offset.isSome then .moment else .localMoment)
  | _ => none

/-- The number that a value counts as, exactly if it is whole. -/
def wholeNumber? : Data → Option Int
  | bool b => some (if b then 1 else 0)
  | int n => some n
  | _ => none

/-- The number that a value counts as. -/
def number : Data → Float
  | float x => x
  | d => Float.ofInt (d.wholeNumber?.getD 0)

/-- Whether a number is less than another. -/
def numberLt (a b : Data) : Bool :=
  match a.wholeNumber?, b.wholeNumber? with
  | some m, some n => m < n
  | _, _ => a.number < b.number

/-- Whether a value comes before another of its kind. -/
def isBefore (a b : Data) : Bool :=
  match a, b with
  | text s, text t => s < t
  | bytes s, bytes t => decide (s < t)
  | date d, date e => d.dayNumber < e.dayNumber
  | moment m, moment n => m.instant < n.instant
  | a, b => a.numberLt b

/-- Whether values can be put in order. -/
def areComparable : List Data → Bool
  | [] => true
  | [_] => true
  | d :: ds => d.orderKind?.isSome && ds.all fun e => e.orderKind? == d.orderKind?

/-- The values in order, if they have one. -/
def sorted? (ds : List Data) : Option (List Data) :=
  if areComparable ds then some (ds.mergeSort fun a b => !b.isBefore a) else none

/-- Whether a value equals the number one. -/
def isOne : Data → Bool
  | bool b => b
  | int n => n == 1
  | float x => x == 1
  | _ => false

/-- Whether two keys are the same. Truth values count as numbers, and a number is the same key
whether it is whole or not. -/
def sameKey (a b : Data) : Bool :=
  match a, b with
  | null, null => true
  | text s, text t => s == t
  | bytes s, bytes t => s == t
  | date d, date e => d == e
  | moment m, moment n => m.offset.isSome == n.offset.isSome && m.instant == n.instant
  | a, b =>
    a.orderKind? == some .number && b.orderKind? == some .number &&
      (match a.wholeNumber?, b.wholeNumber? with
      | some m, some n => m == n
      | _, _ => a.number == b.number)

/-- Puts a value under a key. A key that is there already stays where and as it is. -/
def putEntry (key value : Data) : List (Data × Data) → List (Data × Data)
  | [] => [(key, value)]
  | e :: es => if e.1.sameKey key then (e.1, value) :: es else e :: putEntry key value es

/-- The entries of a mapping, of which a later one replaces an earlier one with its key. -/
def entriesOf (pairs : List (Data × Data)) : List (Data × Data) :=
  pairs.foldl (fun es p => putEntry p.1 p.2 es) []

end Data

end ModuleLint
