import VersionCatalog.Number.Binary64

/-!
# Time stamps

A time stamp is a date and a time of day with the offset of its clock from universal time. Two time
stamps are the same instant when they agree after the offsets are taken away.
-/

namespace VersionCatalog

/-- A date and time on a clock. -/
structure Timestamp where
  year : Nat
  /-- The month, from one to twelve. -/
  month : Nat
  /-- The day of the month, from one. -/
  day : Nat
  /-- The hour, from zero to twenty-three. -/
  hour : Nat
  minute : Nat
  second : Nat
  microsecond : Nat
  /-- By how many minutes the clock is ahead of universal time. -/
  offset : Int
deriving DecidableEq, Repr

namespace Timestamp

/-- Whether a year has a leap day. -/
def isLeapYear (year : Nat) : Bool :=
  year % 4 == 0 && (year % 100 != 0 || year % 400 == 0)

/-- The number of days of a year before a month begins. -/
def daysBeforeMonth (year month : Nat) : Nat :=
  let days := [0, 31, 59, 90, 120, 151, 181, 212, 243, 273, 304, 334].getD (month - 1) 0
  if 2 < month ∧ isLeapYear year then days + 1 else days

/-- The number of days before a date, counted from the first day of the year one. -/
def dayNumber (year month day : Nat) : Nat :=
  let years := year - 1
  years * 365 + years / 4 - years / 100 + years / 400 + daysBeforeMonth year month + (day - 1)

/-- Microseconds of universal time since the beginning of 1970. -/
def instant (stamp : Timestamp) : Int :=
  let days : Int := (dayNumber stamp.year stamp.month stamp.day : Int) - dayNumber 1970 1 1
  let minutes : Int := (days * 24 + stamp.hour) * 60 + stamp.minute - stamp.offset
  (minutes * 60 + stamp.second) * 1000000 + stamp.microsecond

/-- The time stamp of universal time at a number of microseconds since the beginning of 1970. Years
are counted from the first of March, so that a leap day ends its year, in periods of 400 years. -/
def ofInstant (microseconds : Nat) : Timestamp :=
  let seconds := microseconds / 1000000
  let days := seconds / 86400 + 719468
  let dayOfPeriod := days % 146097
  let yearOfPeriod :=
    (dayOfPeriod - dayOfPeriod / 1460 + dayOfPeriod / 36524 - dayOfPeriod / 146096) / 365
  let dayOfYear := dayOfPeriod - (365 * yearOfPeriod + yearOfPeriod / 4 - yearOfPeriod / 100)
  let monthOfYear := (5 * dayOfYear + 2) / 153
  let year := days / 146097 * 400 + yearOfPeriod
  { year := if monthOfYear < 10 then year else year + 1
    month := if monthOfYear < 10 then monthOfYear + 3 else monthOfYear - 9
    day := dayOfYear - (153 * monthOfYear + 2) / 5 + 1
    hour := seconds % 86400 / 3600
    minute := seconds % 3600 / 60
    second := seconds % 60
    microsecond := microseconds % 1000000
    offset := 0 }

/-- Milliseconds since the beginning of 1970, toward zero. They are worked out from the seconds as
a binary number, so that the last of them may be missing. -/
def milliseconds (stamp : Timestamp) : Int :=
  let instant := stamp.instant
  ((Binary64.ofQuotient (instant < 0) instant.natAbs 1000000).scale 1000).truncate

/-- A number with zeros before it to fill a width. -/
def padded (width number : Nat) : String :=
  let digits := Nat.toDigits 10 number
  String.ofList (List.replicate (width - digits.length) '0' ++ digits)

/-- A time stamp as text, the microseconds being given only when there are any. -/
def text (stamp : Timestamp) : String :=
  let date := s!"{padded 4 stamp.year}-{padded 2 stamp.month}-{padded 2 stamp.day}"
  let time := s!"{padded 2 stamp.hour}:{padded 2 stamp.minute}:{padded 2 stamp.second}"
  let part := if stamp.microsecond = 0 then "" else s!".{padded 6 stamp.microsecond}"
  let sign := if stamp.offset < 0 then "-" else "+"
  let ahead := stamp.offset.natAbs
  s!"{date}T{time}{part}{sign}{padded 2 (ahead / 60)}:{padded 2 (ahead % 60)}"

end Timestamp

end VersionCatalog
