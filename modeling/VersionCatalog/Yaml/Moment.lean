import VersionCatalog.Settings.Moment
import VersionCatalog.Text.Digit

/-!
# Days and moments in words

A day is written with hyphens. A moment has a time of day after it, whose parts stand between
colons, and may tell by how much its clock is ahead of universal time.
-/

namespace VersionCatalog.Yaml

open Text

/-- Reads a run of decimal digits whose length is at least `least` and at most `most`. -/
def readNumber? (least most : Nat) (text : List Char) : Option (Nat × List Char) :=
  let digits := text.takeWhile Char.isDigit
  if least ≤ digits.length ∧ digits.length ≤ most then
    some (numeral digits, text.drop digits.length)
  else none

/-- Reads a mark and a run of decimal digits after it. -/
def readMarked? (mark : Char) (least most : Nat) : List Char → Option (Nat × List Char)
  | [] => none
  | char :: rest => if char = mark then readNumber? least most rest else none

/-- Reads the day at the beginning of a word; a month or a day may have a single digit. -/
def readDay? (text : List Char) : Option (CalendarDay × List Char) := do
  let (year, rest) ← readNumber? 4 4 text
  let (month, rest) ← readMarked? '-' 1 2 rest
  let (day, rest) ← readMarked? '-' 1 2 rest
  return (⟨year, month, day⟩, rest)

/-- Reads what stands between a day and a time: the letter T, or white space. -/
def readBetween? : List Char → Option (List Char)
  | 'T' :: rest => some rest
  | 't' :: rest => some rest
  | ' ' :: rest => some (rest.dropWhile (· == ' '))
  | _ => none

/-- Reads the microseconds after a point, if there is one. Of the digits, six count. -/
def readPart : List Char → Nat × List Char
  | '.' :: rest =>
      let digits := rest.takeWhile Char.isDigit
      let counted := digits.take 6
      (numeral (counted ++ List.replicate (6 - counted.length) '0'), rest.drop digits.length)
  | rest => (0, rest)

/-- Reads the offset of a clock up to the end, if it is written. -/
def readOffset? (text : List Char) : Option (Option Int) :=
  match text.dropWhile (· == ' ') with
  | [] => if text.isEmpty then some none else none
  | ['Z'] => some (some 0)
  | sign :: rest => do
      if sign ≠ '+' ∧ sign ≠ '-' then none
      else
        let (hours, rest) ← readNumber? 1 2 rest
        let (minutes, rest) ← if rest.isEmpty then some (0, []) else readMarked? ':' 2 2 rest
        if rest.isEmpty then
          let offset : Int := hours * 60 + minutes
          return some (if sign = '-' then -offset else offset)
        else none

/-- Whether a word is a day: the month and the day have two digits then. -/
def isDayForm (word : List Char) : Bool :=
  word.length == 10 && word[4]? == some '-' && word[7]? == some '-'

/-- The day that a word writes, if it writes one, whether or not there is such a day. -/
def readDayWord? (word : List Char) : Option CalendarDay :=
  match readDay? word with
  | some (day, []) => if isDayForm word then some day else none
  | _ => none

/-- The moment that a word writes, if it writes one, whether or not there is such a moment. -/
def readMomentWord? (word : List Char) : Option Moment := do
  let (day, rest) ← readDay? word
  let rest ← readBetween? rest
  let (hour, rest) ← readNumber? 1 2 rest
  let (minute, rest) ← readMarked? ':' 2 2 rest
  let (second, rest) ← readMarked? ':' 2 2 rest
  let (microsecond, rest) := readPart rest
  let offset ← readOffset? rest
  return { day, hour, minute, second, microsecond, offset }

end VersionCatalog.Yaml
