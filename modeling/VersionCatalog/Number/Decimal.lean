import VersionCatalog.Number.Binary64

/-!
# Shortest decimal numerals

A binary number is written with the fewest decimal digits that lie nearer to it than to any other
number of its format; of two such numerals of one length, the one nearer to the number is taken.
-/

namespace VersionCatalog.Binary64

/-- The fraction with a power of ten taken out. -/
def takeTens (num den : Nat) (tens : Int) : Nat × Nat :=
  if 0 ≤ tens then (num, den * Nat.pow 10 tens.toNat) else (num * Nat.pow 10 (-tens).toNat, den)

/-- Whether a fraction rounds to the number of that significand and exponent: it lies within half a
unit, and at the ends of that interval the significand is even. Below a power of two the lower half
unit is halved. -/
def roundsTo (significand : Nat) (exponent : Int) (num den : Nat) : Bool :=
  let low := if significand = Nat.pow 2 52 ∧ leastExponent < exponent then 1 else 2
  let (num, den) := scaleDown (4 * num) den exponent
  let (lower, upper) := ((4 * significand - low) * den, (4 * significand + 2) * den)
  if significand % 2 = 0 then lower ≤ num && num ≤ upper else lower < num && num < upper

/-- The multiple of a power of ten next to a finite number that rounds to it, if there is one. The
nearer of the two neighbours is preferred, and of two as near the even one. -/
def neighbour? (significand : Nat) (exponent : Int) (tens : Int) : Option Nat :=
  let (num, den) := fraction significand exponent
  let (scaledNum, scaledDen) := takeTens num den tens
  let below := scaledNum / scaledDen
  let nearest := roundQuotient scaledNum scaledDen
  let other := if nearest = below then below + 1 else below
  let reads (digits : Nat) : Bool :=
    let (num, den) := if 0 ≤ tens then (digits * Nat.pow 10 tens.toNat, 1)
      else (digits, Nat.pow 10 (-tens).toNat)
    roundsTo significand exponent num den
  if reads nearest then some nearest else if reads other then some other else none

/-- The power of ten just above a positive fraction: the least that exceeds it. -/
def decimalMagnitude (num den : Nat) : Int :=
  let guess : Int := (Nat.toDigits 10 num).length - (Nat.toDigits 10 den).length
  let (guessNum, guessDen) := takeTens num den guess
  if guessNum < guessDen then guess else guess + 1

/-- Tries numerals of more and more digits. -/
def shortestFrom (significand : Nat) (exponent magnitude : Int) (digits : Nat) :
    (tries : Nat) → Nat × Int
  | 0 => (significand, 0)
  | tries + 1 =>
      let tens := magnitude - digits
      match neighbour? significand exponent tens with
      | some numeral => (numeral, tens)
      | none => shortestFrom significand exponent magnitude (digits + 1) tries

/-- The digits of the shortest numeral of a positive number without zeros at the end, and the place
of the point: the number is `0.DIGITS` times that power of ten. Seventeen digits always suffice. -/
def shortest (significand : Nat) (exponent : Int) : List Char × Int :=
  let (num, den) := fraction significand exponent
  let (numeral, tens) := shortestFrom significand exponent (decimalMagnitude num den) 1 17
  let digits := Nat.toDigits 10 numeral
  ((digits.reverse.dropWhile (· == '0')).reverse, tens + digits.length)

/-- Digits with the point at a place, zeros filling up on either side. -/
def pointed (digits : List Char) (place : Int) : List Char :=
  if place ≤ 0 then '0' :: '.' :: List.replicate (-place).toNat '0' ++ digits
  else
    let place := place.toNat
    let whole := digits.take place ++ List.replicate (place - digits.length) '0'
    let part := digits.drop place
    whole ++ '.' :: if part.isEmpty then ['0'] else part

/-- Digits with the point after the first, and a power of ten of at least two digits. -/
def scientific (digits : List Char) (place : Int) : List Char :=
  let power := place - 1
  let powerDigits := Nat.toDigits 10 power.natAbs
  let mantissa :=
    match digits with
    | first :: second :: others => first :: '.' :: second :: others
    | few => few
  mantissa ++ ['e', if power < 0 then '-' else '+'] ++
    List.replicate (2 - powerDigits.length) '0' ++ powerDigits

/-- The numeral of a number: with a point from 0.0001 up to 10^16, with a power of ten beyond. -/
def numeral : Binary64 → String
  | nan => "nan"
  | infinite negative => if negative then "-inf" else "inf"
  | finite negative significand exponent =>
      let digits :=
        if significand = 0 then ['0', '.', '0']
        else
          let (digits, place) := shortest significand exponent
          if -4 < place ∧ place ≤ 16 then pointed digits place else scientific digits place
      String.ofList (if negative then '-' :: digits else digits)

end VersionCatalog.Binary64
