/-!
# Decimal digits and the numbers they write

A decimal digit of any script has a value from zero to nine. The digits of one script follow each
other, so that a table of the zeros gives them all. A number is read from its digits unless there
are more of them than the limit allows.
-/

namespace VersionCatalog.Text

/-- The code points of the digits of value zero, in ascending order. -/
def digitZeros : List Nat :=
  [0x30, 0x660, 0x6f0, 0x7c0, 0x966, 0x9e6, 0xa66, 0xae6, 0xb66, 0xbe6, 0xc66, 0xce6, 0xd66,
   0xde6, 0xe50, 0xed0, 0xf20, 0x1040, 0x1090, 0x17e0, 0x1810, 0x1946, 0x19d0, 0x1a80, 0x1a90,
   0x1b50, 0x1bb0, 0x1c40, 0x1c50, 0xa620, 0xa8d0, 0xa900, 0xa9d0, 0xa9f0, 0xaa50, 0xabf0, 0xff10,
   0x104a0, 0x10d30, 0x11066, 0x110f0, 0x11136, 0x111d0, 0x112f0, 0x11450, 0x114d0, 0x11650,
   0x116c0, 0x11730, 0x118e0, 0x11950, 0x11c50, 0x11d50, 0x11da0, 0x16a60, 0x16ac0, 0x16b50,
   0x1d7ce, 0x1d7d8, 0x1d7e2, 0x1d7ec, 0x1d7f6, 0x1e140, 0x1e2f0, 0x1e950, 0x1fbf0]

/-- The value of a decimal digit. -/
def digitValue? (char : Char) : Option Nat :=
  (digitZeros.find? fun origin => origin ≤ char.toNat && char.toNat < origin + 10).map
    (char.toNat - ·)

/-- A decimal digit of any script. -/
def isDigit (char : Char) : Bool :=
  (digitValue? char).isSome

/-- The number that a run of decimal digits writes, the first digit being the most significant. -/
def numeral (digits : List Char) : Nat :=
  digits.foldl (fun number char => 10 * number + (digitValue? char).getD 0) 0

/-- The most digits that a number may be read from. -/
def digitLimit : Nat := 4300

/-- A number with more digits than may be read. -/
structure LongNumeral where
  /-- How many digits there are, leading zeros included. -/
  digits : Nat
deriving DecidableEq, Repr

/-- The sentence that reports the refusal. -/
def LongNumeral.message (refused : LongNumeral) : String :=
  s!"Exceeds the limit ({digitLimit} digits) for integer string conversion: value has " ++
    s!"{refused.digits} digits; use sys.set_int_max_str_digits() to increase the limit"

/-- Reads a run of decimal digits as a number, unless it is too long. -/
def readNumeral (digits : List Char) : Except LongNumeral Nat :=
  if digitLimit < digits.length then .error ⟨digits.length⟩ else .ok (numeral digits)

end VersionCatalog.Text
