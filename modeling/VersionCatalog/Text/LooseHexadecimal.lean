import VersionCatalog.Text.Blank
import VersionCatalog.Text.Digit
import VersionCatalog.Text.Hexadecimal

/-!
# Loosely written hexadecimal numbers

The code of an escape is read as a loosely written hexadecimal number: white space may stand around
it, a sign and `0x` before it, single low lines between its digits, and a digit from zero to nine
may belong to any script.
-/

namespace VersionCatalog.Text

/-- White space around a number: the ASCII kinds, and all others beyond ASCII. -/
def isNumeralBlank (char : Char) : Bool :=
  if char.toNat < 0x7f then char == ' ' || ('\t' ≤ char && char ≤ '\r') else isBlank char

/-- The value of a hexadecimal digit, a decimal digit being of any script. -/
def looseHexValue? (char : Char) : Option Nat :=
  if char.toNat < 0x7f then hexValue? char else digitValue? char

/-- Reads hexadecimal digits up to the end, a single low line being allowed after a digit that
another digit follows. -/
def readHexDigits (afterDigit : Bool) (number : Nat) : List Char → Option Nat
  | [] => if afterDigit then some number else none
  | char :: rest =>
      if char = '_' then
        if afterDigit then readHexDigits false number rest else none
      else
        match looseHexValue? char with
        | some value => readHexDigits true (16 * number + value) rest
        | none => none

/-- Reads an unsigned number, which `0x` or `0x_` may introduce. -/
def readUnsignedHex (text : List Char) : Option Nat :=
  match text with
  | first :: mark :: rest =>
      if looseHexValue? first = some 0 ∧ (mark = 'x' ∨ mark = 'X') then
        match rest with
        | '_' :: digits => readHexDigits false 0 digits
        | digits => readHexDigits false 0 digits
      else readHexDigits false 0 text
  | _ => readHexDigits false 0 text

/-- Reads a loosely written hexadecimal number. -/
def readLooseHex (text : List Char) : Option Int :=
  let bare := ((text.dropWhile isNumeralBlank).reverse.dropWhile isNumeralBlank).reverse
  match bare with
  | '-' :: digits => (readUnsignedHex digits).map fun number => -(number : Int)
  | '+' :: digits => (readUnsignedHex digits).map Int.ofNat
  | digits => (readUnsignedHex digits).map Int.ofNat

end VersionCatalog.Text
