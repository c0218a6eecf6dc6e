import ModuleLint.Decimal.Text
import ModuleLint.Text.Quoted

/-!
# Data of a configuration

The values that a configuration document or a switch can have, before it is known whether they
are the right ones, and how messages show them.
-/

namespace ModuleLint

/-- A day of the calendar. -/
structure Date where
  /-- The year. -/
  year : Nat
  /-- The month, from one. -/
  month : Nat
  /-- The day of the month, from one. -/
  day : Nat
  deriving DecidableEq, Repr, Inhabited

/-- A time of a day. -/
structure Moment where
  /-- The day. -/
  date : Date
  /-- The hour. -/
  hour : Nat
  /-- The minute. -/
  minute : Nat
  /-- The second. -/
  second : Nat
  /-- The millionths of a second. -/
  micro : Nat
  /-- How many seconds the clock is ahead of universal time, if that is known. -/
  offset : Option Int
  deriving DecidableEq, Repr, Inhabited

/-- A value of a configuration document. -/
inductive Data
  | null
  | bool (b : Bool)
  | int (n : Int)
  | float (x : Float)
  | text (s : String)
  | bytes (bs : List UInt8)
  | date (d : Date)
  | moment (m : Moment)
  | list (items : List Data)
  /-- A key with its value, as ordered mappings list them. -/
  | pair (key value : Data)
  | mapping (entries : List (Data × Data))
  | set (members : List Data)
  /-- The list or the mapping that this value lies in. -/
  | loop (isMapping : Bool)
  deriving Inhabited, Repr

namespace Date

/-- The day with dashes between its numbers. -/
def text (d : Date) : String :=
  Decimal.padded 4 d.year ++ "-" ++ Decimal.padded 2 d.month ++ "-" ++ Decimal.padded 2 d.day

/-- The numbers of the day, as a constructor takes them. -/
def numbers (d : Date) : List Nat := [d.year, d.month, d.day]

end Date

/-- Texts with a comma between each two. -/
def commaJoined (texts : List String) : String :=
  ", ".intercalate texts

namespace Moment

/-- A difference from universal time as hours and minutes, and seconds unless they are zero. -/
def offsetText (offset : Int) : String :=
  let n := offset.natAbs
  let seconds := n % 60
  (if offset < 0 then "-" else "+") ++ Decimal.padded 2 (n / 3600) ++ ":" ++
    Decimal.padded 2 (n / 60 % 60) ++
    (if seconds = 0 then "" else ":" ++ Decimal.padded 2 seconds)

/-- The day and the time of the moment. -/
def text (m : Moment) : String :=
  m.date.text ++ " " ++ Decimal.padded 2 m.hour ++ ":" ++ Decimal.padded 2 m.minute ++ ":" ++
    Decimal.padded 2 m.second ++
    (if m.micro = 0 then "" else "." ++ Decimal.padded 6 m.micro) ++
    (m.offset.map offsetText).getD ""

/-- A difference from universal time as a zone is shown. -/
def zoneShown (offset : Int) : String :=
  if offset = 0 then "datetime.timezone.utc"
  else
    let days := Int.fdiv offset 86400
    let seconds := Int.fmod offset 86400
    let parts := (if days = 0 then [] else ["days=" ++ toString days]) ++
      (if seconds = 0 then [] else ["seconds=" ++ toString seconds])
    "datetime.timezone(datetime.timedelta(" ++ commaJoined parts ++ "))"

/-- The numbers of the time, without zeros for the last two. -/
def numbers (m : Moment) : List Nat :=
  m.date.numbers ++ [m.hour, m.minute] ++
    (if m.micro ≠ 0 then [m.second, m.micro] else if m.second ≠ 0 then [m.second] else [])

/-- The moment as a message shows a value. -/
def shown (m : Moment) : String :=
  let parts := m.numbers.map toString ++
    ((m.offset.map fun o => "tzinfo=" ++ zoneShown o).toList)
  "datetime.datetime(" ++ commaJoined parts ++ ")"

end Moment

namespace Data

/-- The word for a truth value. -/
def boolText (b : Bool) : String := if b then "True" else "False"

mutual

/-- A value as a message shows it, with texts quoted. -/
def shown : Data → String
  | null => "None"
  | bool b => boolText b
  | int n => toString n
  | float x => Decimal.floatText x
  | text s => Text.quoted s
  | bytes bs => Text.quotedBytes bs
  | date d => "datetime.date(" ++ commaJoined (d.numbers.map toString) ++ ")"
  | moment m => m.shown
  | list items => "[" ++ commaJoined (shownItems items) ++ "]"
  | pair key value => "(" ++ shown key ++ ", " ++ shown value ++ ")"
  | mapping entries => "\x7b" ++ commaJoined (shownEntries entries) ++ "\x7d"
  | loop isMapping => if isMapping then "\x7b...\x7d" else "[...]"
  | set [] => "set()"
  | set (m :: ms) => "\x7b" ++ commaJoined (shown m :: shownItems ms) ++ "\x7d"

/-- Values, each as a message shows it. -/
def shownItems : List Data → List String
  | [] => []
  | d :: ds => shown d :: shownItems ds

/-- Keys with their values, as a message shows them. -/
def shownEntries : List (Data × Data) → List String
  | [] => []
  | (k, v) :: es => (shown k ++ ": " ++ shown v) :: shownEntries es

end

/-- A value as part of the wording of a message: a text stands for itself. -/
def plain : Data → String
  | text s => s
  | date d => d.text
  | moment m => m.text
  | d => d.shown

/-- Whether a value counts as nothing. -/
def isBlank : Data → Bool
  | null => true
  | bool b => !b
  | int n => n == 0
  | float x => x == 0
  | text s => s.isEmpty
  | bytes bs => bs.isEmpty
  | list items => items.isEmpty
  | mapping entries => entries.isEmpty
  | set members => members.isEmpty
  | _ => false

/-- Whether a value can be a key or be looked up among keys. -/
def isKey : Data → Bool
  | list _ => false
  | mapping _ => false
  | set _ => false
  | loop _ => false
  | pair k v => k.isKey && v.isKey
  | _ => true

/-- The text of a value that is one. -/
def text? : Data → Option String
  | text s => some s
  | _ => none

end Data

end ModuleLint
