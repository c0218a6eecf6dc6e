import ModuleLint.Data
import ModuleLint.Yaml.Fault

/-!
# Days and times

A scalar is a day if it gives year, month and day, and a time if hour, minute and second follow.
A time may have a fraction of a second and say how far its clock is ahead of universal time.
-/

namespace ModuleLint.Yaml

/-- A difference from universal time: whether the clock is behind, hours and minutes. -/
structure ZoneText where
  /-- Whether the clock is behind. -/
  behind : Bool
  /-- Digits of the hours. -/
  hours : List Char
  /-- Digits of the minutes. -/
  minutes : List Char

/-- The zone of a time. -/
inductive Zone
  /-- None is given. -/
  | unknown
  /-- Universal time. -/
  | universal
  /-- A difference from universal time. -/
  | shifted (z : ZoneText)

/-- The digits of a time of day. -/
structure ClockText where
  /-- The hour. -/
  hour : List Char
  /-- The minute. -/
  minute : List Char
  /-- The second. -/
  second : List Char
  /-- The fraction of the second. -/
  fraction : List Char
  /-- The zone. -/
  zone : Zone

/-- The digits of a day, and of a time if one follows. -/
structure TimeText where
  /-- The year. -/
  year : List Char
  /-- The month. -/
  month : List Char
  /-- The day of the month. -/
  day : List Char
  /-- The time of day. -/
  clock : Option ClockText

/-- Up to `most` digits, at least `least`, and the rest. -/
def someDigits? (least most : Nat) (cs : List Char) : Option (List Char × List Char) :=
  let found := (cs.take most).takeWhile Char.isDigit
  if least ≤ found.length then some (found, cs.drop found.length) else none

/-- The rest after a given character. -/
def after? (c : Char) : List Char → Option (List Char)
  | d :: cs => if d = c then some cs else none
  | [] => none

/-- The zone that the end of a time gives. -/
def zone? (cs : List Char) : Option Zone :=
  match cs.dropWhile fun c => c == ' ' || c == '\t' with
  | [] => if cs.isEmpty then some .unknown else none
  | ['Z'] => some .universal
  | sign :: rest =>
    if sign = '+' ∨ sign = '-' then
      match someDigits? 1 2 rest with
      | some (hours, []) => some (.shifted ⟨sign == '-', hours, []⟩)
      | some (hours, ':' :: rest) =>
        match someDigits? 2 2 rest with
        | some (minutes, []) => some (.shifted ⟨sign == '-', hours, minutes⟩)
        | _ => none
      | _ => none
    else none

/-- The time of day that a text gives. -/
def clock? (cs : List Char) : Option ClockText := do
  let (hour, rest) ← someDigits? 1 2 cs
  let (minute, rest) ← someDigits? 2 2 (← after? ':' rest)
  let (second, rest) ← someDigits? 2 2 (← after? ':' rest)
  let (fraction, rest) := match rest with
    | '.' :: rest => rest.span Char.isDigit
    | rest => ([], rest)
  return ⟨hour, minute, second, fraction, ← zone? rest⟩

/-- The text of a time of day after what parts it from the day. -/
def clockPart? : List Char → Option (List Char)
  | 'T' :: cs => some cs
  | 't' :: cs => some cs
  | c :: cs =>
    if c = ' ' ∨ c = '\t' then some (cs.dropWhile fun c => c == ' ' || c == '\t') else none
  | [] => none

/-- The day and the time that a scalar gives. -/
def timeText? (cs : List Char) : Option TimeText := do
  let (year, rest) ← someDigits? 4 4 cs
  let (month, rest) ← someDigits? 1 2 (← after? '-' rest)
  let (day, rest) ← someDigits? 1 2 (← after? '-' rest)
  if rest.isEmpty then return ⟨year, month, day, none⟩
  return ⟨year, month, day, some (← clock? (← clockPart? rest))⟩

/-- Whether a scalar without a tag is a day or a time. The month and the day of a bare day have
two digits. -/
def isTime (cs : List Char) : Bool :=
  match timeText? cs with
  | some t => t.clock.isSome || (t.month.length == 2 && t.day.length == 2)
  | none => false

/-- The number that digits write. -/
def number (digits : List Char) : Nat :=
  digits.foldl (fun n c => n * 10 + (c.toNat - 48)) 0

/-- Whether a year has a leap day. -/
def isLeapYear (year : Nat) : Bool :=
  year % 4 == 0 && (year % 100 != 0 || year % 400 == 0)

/-- The number of days of a month. -/
def daysIn (year month : Nat) : Nat :=
  if month = 2 then (if isLeapYear year then 29 else 28)
  else if month = 4 ∨ month = 6 ∨ month = 9 ∨ month = 11 then 30 else 31

/-- The day with the given numbers, if there is one. -/
def dateOf (year month day : Nat) : Except CalendarFault Date :=
  if year = 0 then .error (.year year)
  else if month = 0 ∨ 12 < month then .error .month
  else if day = 0 ∨ daysIn year month < day then .error .day
  else .ok ⟨year, month, day⟩

/-- The seconds that a zone is ahead of universal time. -/
def zoneOffset : Zone → Except CalendarFault (Option Int)
  | .unknown => .ok none
  | .universal => .ok (some 0)
  | .shifted z =>
    let seconds : Int := (number z.hours * 3600 + number z.minutes * 60 : Nat)
    let seconds := if z.behind then -seconds else seconds
    if 86400 ≤ seconds.natAbs then .error (.offset seconds) else .ok (some seconds)

/-- The millionths of a second that the digits of a fraction write. -/
def micros (fraction : List Char) : Nat :=
  let digits := fraction.take 6
  number digits * Nat.pow 10 (6 - digits.length)

/-- The day or the moment that texts give, if there is one. -/
def TimeText.data (t : TimeText) : Except CalendarFault Data := do
  let date := dateOf (number t.year) (number t.month) (number t.day)
  match t.clock with
  | none => return .date (← date)
  | some clock =>
    let offset ← zoneOffset clock.zone
    let date ← date
    if 23 < number clock.hour then throw .hour
    if 59 < number clock.minute then throw .minute
    if 59 < number clock.second then throw .second
    return .moment ⟨date, number clock.hour, number clock.minute, number clock.second,
      micros clock.fraction, offset⟩

/-- The day or the moment that a scalar gives. -/
def timeOf (text : String) : Except Fault Data :=
  match timeText? text.toList with
  | none => .error .notTime
  | some t => t.data.mapError .calendar

end ModuleLint.Yaml
