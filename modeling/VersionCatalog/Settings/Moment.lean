import VersionCatalog.Timestamp

/-!
# Days and moments

A settings file may name a day of the calendar, or a moment of a day on a clock. Two moments are the
same when both clocks tell how far they are ahead of universal time and the moments agree in it, or
when neither does and they agree as written.
-/

namespace VersionCatalog

/-- A day of the calendar. -/
structure CalendarDay where
  year : Nat
  /-- The month, from one to twelve. -/
  month : Nat
  /-- The day of the month, from one. -/
  day : Nat
deriving DecidableEq, Repr

/-- A moment of a day on a clock. -/
structure Moment where
  day : CalendarDay
  /-- The hour, from zero to twenty-three. -/
  hour : Nat
  minute : Nat
  second : Nat
  microsecond : Nat
  /-- By how many minutes the clock is ahead of universal time, if it tells. -/
  offset : Option Int
deriving DecidableEq, Repr

/-- What is out of range in a day or a moment. -/
inductive CalendarFault where
  /-- There is no year zero. -/
  | year (value : Nat)
  /-- There are twelve months. -/
  | month
  /-- The month has no such day. -/
  | day
  /-- There are twenty-four hours. -/
  | hour
  /-- There are sixty minutes. -/
  | minute
  /-- There are sixty seconds. -/
  | second
  /-- No clock is a whole day ahead or behind. -/
  | offset (minutes : Int)
deriving DecidableEq, Repr

/-- A part of a literal with its name, unless it is zero. -/
def namedPart (name : String) (value : Int) : List String :=
  if value = 0 then [] else [s!"{name}={value}"]

/-- A span of minutes as a literal: days and, within a day, seconds. -/
def spanLiteral (minutes : Int) : String :=
  let parts := namedPart "days" (minutes / 1440) ++ namedPart "seconds" (minutes % 1440 * 60)
  let content := if parts.isEmpty then "0" else ", ".intercalate parts
  s!"datetime.timedelta({content})"

/-- What is said about a day or a moment out of range. -/
def CalendarFault.message : CalendarFault → String
  | year value => s!"year {value} is out of range"
  | month => "month must be in 1..12"
  | day => "day is out of range for month"
  | hour => "hour must be in 0..23"
  | minute => "minute must be in 0..59"
  | second => "second must be in 0..59"
  | offset minutes =>
      "offset must be a timedelta strictly between -timedelta(hours=24) and " ++
        s!"timedelta(hours=24), not {spanLiteral minutes}."

namespace CalendarDay

/-- The number of days of a month. -/
def daysOfMonth (year month : Nat) : Nat :=
  if month = 2 ∧ Timestamp.isLeapYear year then 29
  else [31, 28, 31, 30, 31, 30, 31, 31, 30, 31, 30, 31].getD (month - 1) 0

/-- A day whose parts are in range; the first that is not is reported. -/
def checked (day : CalendarDay) : Except CalendarFault CalendarDay :=
  if day.year = 0 then .error (.year day.year)
  else if day.month = 0 ∨ 12 < day.month then .error .month
  else if day.day = 0 ∨ daysOfMonth day.year day.month < day.day then .error .day
  else .ok day

def text (day : CalendarDay) : String :=
  let year := Timestamp.padded 4 day.year
  let month := Timestamp.padded 2 day.month
  s!"{year}-{month}-{Timestamp.padded 2 day.day}"

def literal (day : CalendarDay) : String :=
  s!"datetime.date({day.year}, {day.month}, {day.day})"

end CalendarDay

namespace Moment

/-- A moment whose parts are in range. The offset is looked at before the day and the time. -/
def checked (moment : Moment) : Except CalendarFault Moment := do
  let offset := moment.offset.getD 0
  if 1440 ≤ offset.natAbs then throw (.offset offset)
  let _ ← moment.day.checked
  if 24 ≤ moment.hour then throw .hour
  else if 60 ≤ moment.minute then throw .minute
  else if 60 ≤ moment.second then throw .second
  else return moment

/-- Microseconds since the beginning of the year one on the clock of a moment. -/
def reading (moment : Moment) : Int :=
  let days := Timestamp.dayNumber moment.day.year moment.day.month moment.day.day
  let seconds := ((days * 24 + moment.hour) * 60 + moment.minute) * 60 + moment.second
  ((seconds * 1000000 + moment.microsecond : Nat) : Int)

/-- Whether two moments are the same. -/
def isSame (left right : Moment) : Bool :=
  match left.offset, right.offset with
  | some leftAhead, some rightAhead =>
      left.reading - leftAhead * 60000000 == right.reading - rightAhead * 60000000
  | none, none => left.reading == right.reading
  | _, _ => false

def offsetText (offset : Int) : String :=
  let sign := if offset < 0 then "-" else "+"
  let ahead := offset.natAbs
  s!"{sign}{Timestamp.padded 2 (ahead / 60)}:{Timestamp.padded 2 (ahead % 60)}"

/-- A moment as text, the microseconds being given only when there are any. -/
def text (moment : Moment) : String :=
  let hour := Timestamp.padded 2 moment.hour
  let minute := Timestamp.padded 2 moment.minute
  let second := Timestamp.padded 2 moment.second
  let part :=
    if moment.microsecond = 0 then "" else s!".{Timestamp.padded 6 moment.microsecond}"
  let ahead := moment.offset.elim "" offsetText
  s!"{moment.day.text} {hour}:{minute}:{second}{part}{ahead}"

def offsetLiteral (offset : Int) : String :=
  if offset = 0 then "datetime.timezone.utc" else s!"datetime.timezone({spanLiteral offset})"

/-- A moment as a literal. The seconds and microseconds at its end are left out when zero. -/
def literal (moment : Moment) : String :=
  let day := [moment.day.year, moment.day.month, moment.day.day]
  let time := [moment.hour, moment.minute]
  let rest :=
    if moment.microsecond = 0 then (if moment.second = 0 then [] else [moment.second])
    else [moment.second, moment.microsecond]
  let clock := moment.offset.elim [] fun offset => [s!"tzinfo={offsetLiteral offset}"]
  let content := ", ".intercalate ((day ++ time ++ rest).map toString ++ clock)
  s!"datetime.datetime({content})"

end Moment

end VersionCatalog
