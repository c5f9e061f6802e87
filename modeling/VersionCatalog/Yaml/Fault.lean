import VersionCatalog.Settings.Moment
import VersionCatalog.Text.Digit

/-!
# Faults of a settings file

A settings file may be malformed. A file that is well formed may still write a value that is beyond
the limits of numbers, of the calendar and of characters.
-/

namespace VersionCatalog.Yaml

open Text

/-- Why something that is written correctly has no value. -/
inductive Refusal where
  /-- A number has too many digits. -/
  | longNumeral (refused : LongNumeral)
  /-- A number to this base has low lines in place of digits. -/
  | emptyNumeral (base : Nat)
  /-- A day or a moment is out of range. -/
  | calendar (fault : CalendarFault)
  /-- The code of an escape is beyond the last character. -/
  | beyondCharacters
  /-- The code of an escape, or the worth of a place in a number, is beyond all machine numbers. -/
  | overflow
  /-- The call stack does not suffice for the nesting of data. -/
  | exhausted
  /-- Another reason. -/
  | other (message : String)
deriving DecidableEq, Repr

/-- What is said about a refusal. -/
def Refusal.message : Refusal → String
  | longNumeral refused => refused.message
  | emptyNumeral base => s!"invalid literal for int() with base {base}: ''"
  | calendar fault => fault.message
  | beyondCharacters => "chr() arg not in range(0x110000)"
  | overflow => "A number of the settings file is beyond all machine numbers"
  | exhausted => "maximum recursion depth exceeded"
  | other message => message

/-- Why a settings file cannot be read. -/
inductive Fault where
  /-- The text is no settings file. -/
  | malformed
  /-- Something has no value. -/
  | refused (refusal : Refusal)
deriving DecidableEq, Repr

/-- A part that is found, a settings file without it being malformed. -/
def required {α : Type} : Option α → Except Fault α
  | some part => .ok part
  | none => .error .malformed

end VersionCatalog.Yaml
