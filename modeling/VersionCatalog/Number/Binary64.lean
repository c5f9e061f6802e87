/-!
# Binary floating-point numbers

Numbers with a fraction are kept in the 64-bit binary format. A finite number is a significand times
a power of two; it is found by rounding an exact quotient to the nearest number of the format, a tie
going to the even significand.
-/

namespace VersionCatalog

/-- A number of the 64-bit binary format. -/
inductive Binary64 where
  /-- The significand times two to the exponent. -/
  | finite (negative : Bool) (significand : Nat) (exponent : Int)
  | infinite (negative : Bool)
  | nan
deriving DecidableEq, Repr

namespace Binary64

/-- The least exponent, that of the subnormal numbers. -/
def leastExponent : Int := -1074

def greatestExponent : Int := 971

/-- The significands are below this bound. -/
def significandBound : Nat := Nat.pow 2 53

/-- Rounds a quotient to the nearest natural number, a tie to the even one. -/
def roundQuotient (num den : Nat) : Nat :=
  let quotient := num / den
  let double := 2 * (num % den)
  if double < den then quotient
  else if den < double then quotient + 1
  else quotient + quotient % 2

/-- The quotient of a fraction by a power of two, as a fraction. -/
def scaleDown (num den : Nat) (exponent : Int) : Nat × Nat :=
  if 0 ≤ exponent then (num, den * Nat.pow 2 exponent.toNat)
  else (num * Nat.pow 2 (-exponent).toNat, den)

/-- Zero of either sign. -/
def signedZero (negative : Bool) : Binary64 := .finite negative 0 leastExponent

/-- The number nearest to a fraction with the given sign. -/
def ofQuotient (negative : Bool) (num den : Nat) : Binary64 :=
  if num = 0 then signedZero negative
  else
    let guess : Int := (num.log2 : Int) - den.log2 - 52
    let (guessNum, guessDen) := scaleDown num den guess
    let fitting := if guessNum < Nat.pow 2 52 * guessDen then guess - 1 else guess
    let exponent := max leastExponent fitting
    let (num, den) := scaleDown num den exponent
    let significand := roundQuotient num den
    let (significand, exponent) :=
      if significand = significandBound then (Nat.pow 2 52, exponent + 1)
      else (significand, exponent)
    if greatestExponent < exponent then .infinite negative
    else .finite negative significand exponent

/-- The number nearest to a decimal number: an integer times a power of ten. Numbers that lie
beyond all powers of two of the format are not worked out. -/
def ofDecimal (negative : Bool) (digits : Nat) (exponent : Int) : Binary64 :=
  let magnitude : Int := (Nat.toDigits 10 digits).length + exponent
  if digits = 0 ∨ magnitude < -330 then signedZero negative
  else if 400 < magnitude then .infinite negative
  else if 0 ≤ exponent then ofQuotient negative (digits * Nat.pow 10 exponent.toNat) 1
  else ofQuotient negative digits (Nat.pow 10 (-exponent).toNat)

/-- The size of a finite number as a fraction. -/
def fraction (significand : Nat) (exponent : Int) : Nat × Nat :=
  if 0 ≤ exponent then (significand * Nat.pow 2 exponent.toNat, 1)
  else (significand, Nat.pow 2 (-exponent).toNat)

/-- The number nearest to the product with a natural number. -/
def scale (factor : Nat) : Binary64 → Binary64
  | finite negative significand exponent =>
      let (num, den) := fraction significand exponent
      ofQuotient negative (num * factor) den
  | other => other

/-- An integer of the given size and sign. -/
def signed (negative : Bool) (size : Nat) : Int :=
  if negative then -(size : Int) else (size : Int)

/-- The number nearest to the sum of two numbers. A sum of zero is negative only if both are. -/
def add : Binary64 → Binary64 → Binary64
  | finite leftSign leftSignificand leftExponent, finite rightSign rightSignificand rightExponent =>
      let (leftNum, leftDen) := fraction leftSignificand leftExponent
      let (rightNum, rightDen) := fraction rightSignificand rightExponent
      let sum := signed leftSign (leftNum * rightDen) + signed rightSign (rightNum * leftDen)
      if sum = 0 then signedZero (leftSign && rightSign)
      else ofQuotient (decide (sum < 0)) sum.natAbs (leftDen * rightDen)
  | nan, _ => nan
  | _, nan => nan
  | infinite left, infinite right => if left = right then infinite left else nan
  | infinite left, _ => infinite left
  | _, infinite right => infinite right

/-- The number with the opposite sign. -/
def negate : Binary64 → Binary64
  | finite negative significand exponent => finite (!negative) significand exponent
  | infinite negative => infinite (!negative)
  | nan => nan

/-- The integer part, zero for what is not finite. -/
def truncate : Binary64 → Int
  | finite negative significand exponent =>
      let (num, den) := fraction significand exponent
      if negative then -((num / den : Nat) : Int) else ((num / den : Nat) : Int)
  | _ => 0

/-- Whether the number equals an integer. -/
def isInteger (integer : Int) : Binary64 → Bool
  | finite negative significand exponent =>
      let (num, den) := fraction significand exponent
      num == integer.natAbs * den && (num == 0 || negative == decide (integer < 0))
  | _ => false

/-- Whether two numbers are equal: zeros are, whatever their signs, and no number equals `nan`. -/
def equals : Binary64 → Binary64 → Bool
  | finite _ 0 _, finite _ 0 _ => true
  | nan, _ => false
  | left, right => left == right

end Binary64

end VersionCatalog
