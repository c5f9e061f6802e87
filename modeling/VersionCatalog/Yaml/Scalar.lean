import VersionCatalog.Settings.Datum
import VersionCatalog.Text.Fields
import VersionCatalog.Text.Hexadecimal
import VersionCatalog.Yaml.Fault
import VersionCatalog.Yaml.Moment

/-!
# Scalars without quotes

A word without quotes may stand for nothing, a truth value, a number, a day or a moment; otherwise
it is a text. Low lines in numbers do not count, a leading zero makes a number octal, and numbers
between colons are the digits of a number to the base sixty.
-/

namespace VersionCatalog.Yaml

open Text

def nullWords : List String := ["", "~", "null", "Null", "NULL"]

/-- The words for the truth value that holds. -/
def trueWords : List String :=
  ["yes", "Yes", "YES", "true", "True", "TRUE", "on", "On", "ON"]

/-- The words for the truth value that does not hold. -/
def falseWords : List String :=
  ["no", "No", "NO", "false", "False", "FALSE", "off", "Off", "OFF"]

/-- The word in place of a key for the pairs that a mapping takes over from others. -/
def mergeWord : String := "<<"

/-- The word for the value of a mapping itself, which only a key may be. -/
def valueWord : String := "="

/-- Whether a sign is negative, and the text after the sign, if there is one. -/
def unsigned : List Char → Bool × List Char
  | '-' :: rest => (true, rest)
  | '+' :: rest => (false, rest)
  | rest => (false, rest)

/-- The number that digits write to a base. -/
def numeralIn (base : Nat) (digits : List Char) : Nat :=
  digits.foldl (fun number digit => base * number + (hexValue? digit).getD 0) 0

/-- A digit or a low line. -/
def isNumberChar (char : Char) : Bool :=
  char.isDigit || char == '_'

/-- The digits of a number, low lines left out. -/
def digitsOf (text : List Char) : List Char :=
  text.filter (· != '_')

/-- Whether a text is a number below sixty, of one or two digits. -/
def isSexagesimalDigit : List Char → Bool
  | [digit] => digit.isDigit
  | [ten, digit] => '0' ≤ ten && ten ≤ '5' && digit.isDigit
  | _ => false

/-- The number that digits write to a base that is marked before them; there may be none but low
lines. -/
def markedNumeral (base : Nat) (digits : List Char) : Except Refusal Nat :=
  if (digitsOf digits).isEmpty then .error (.emptyNumeral base)
  else .ok (numeralIn base (digitsOf digits))

/-- The number that decimal digits write, unless there are too many. -/
def decimalNumeral (digits : List Char) : Except Refusal Nat :=
  (readNumeral (digitsOf digits)).mapError .longNumeral

/-- The integer that a word without its sign writes, if it writes one. -/
def readUnsigned? (word : List Char) : Option (Except Refusal Nat) :=
  match word with
  | ['0'] => some (.ok 0)
  | '0' :: 'b' :: digit :: digits =>
      if (digit :: digits).all ['0', '1', '_'].contains then
        some (markedNumeral 2 (digit :: digits))
      else none
  | '0' :: 'x' :: digit :: digits =>
      if (digit :: digits).all fun char => char == '_' || (hexValue? char).isSome then
        some (markedNumeral 16 (digit :: digits))
      else none
  | '0' :: digits =>
      if digits.all fun char => char == '_' || ('0' ≤ char && char ≤ '7') then
        some (.ok (numeralIn 8 (digitsOf digits)))
      else none
  | first :: _ =>
      if !first.isDigit then none
      else if word.all isNumberChar then some (decimalNumeral word)
      else
        match fields ':' word with
        | leading :: others =>
            if leading.all isNumberChar && others.all isSexagesimalDigit then
              some ((decimalNumeral leading).map fun number =>
                others.foldl (fun number digit => 60 * number + numeralIn 10 digit) number)
            else none
        | [] => none
  | [] => none

/-- The integer that a word writes, if it writes one. -/
def readInteger? (word : List Char) : Option (Except Refusal Int) :=
  let (negative, word) := unsigned word
  (readUnsigned? word).map fun read =>
    read.map fun number => if negative then -(number : Int) else (number : Int)

/-- The power of ten at the end of a number, which needs its sign. -/
def readPower? (text : List Char) : Option Int :=
  match text with
  | [] => some 0
  | mark :: sign :: digits =>
      if (mark = 'e' ∨ mark = 'E') ∧ (sign = '-' ∨ sign = '+') ∧ digits ≠ [] ∧
          digits.all Char.isDigit then
        let power : Int := numeralIn 10 digits
        some (if sign = '-' then -power else power)
      else none
  | _ => none

/-- The number that a part before the point, a part after it and a power of ten write. -/
def pointedNumber (negative : Bool) (whole part : List Char) (power : Int) : Binary64 :=
  let part := digitsOf part
  Binary64.ofDecimal negative (numeralIn 10 (digitsOf whole ++ part)) (power - part.length)

/-- The sum of numbers between colons, the last one first: each counts sixty times as much as the
one after it. -/
def sexagesimalSum (place : Nat) (sum : Binary64) : List Binary64 → Except Refusal Binary64
  | [] => .ok sum
  | number :: numbers =>
      match Binary64.ofQuotient false (Nat.pow 60 place) 1 with
      | .finite negative significand exponent =>
          let unit := (Binary64.finite negative significand exponent).truncate.natAbs
          sexagesimalSum (place + 1) (sum.add (number.scale unit)) numbers
      | _ => .error .overflow

/-- The number between colons that a word without its sign writes, if it writes one; the last one
has a point. -/
def readSexagesimal? (word : List Char) : Option (Except Refusal Binary64) :=
  let before := word.takeWhile (· != '.')
  match fields ':' before, word.drop before.length with
  | (first :: leading) :: other :: others, '.' :: part =>
      if first.isDigit && leading.all isNumberChar && (other :: others).all isSexagesimalDigit &&
          part.all isNumberChar then
        let whole (digits : List Char) : Binary64 := pointedNumber false digits [] 0
        let numbers := (first :: leading) :: (other :: others).dropLast
        let last := pointedNumber false ((other :: others).getLast?.getD []) part 0
        some (sexagesimalSum 0 (Binary64.signedZero false) (last :: (numbers.map whole).reverse))
      else none
  | _, _ => none

/-- The number with a fraction that a word writes, if it writes one without colons. -/
def readPointed? (word : List Char) : Option Binary64 :=
  let (negative, rest) := unsigned word
  let whole := rest.takeWhile isNumberChar
  match rest.drop whole.length with
  | '.' :: rest =>
      let name := String.ofList rest
      if whole.isEmpty && ["inf", "Inf", "INF"].contains name then some (.infinite negative)
      else if word.head? == some '.' && ["nan", "NaN", "NAN"].contains name then some .nan
      else
        let part := rest.takeWhile isNumberChar
        let wellFormed :=
          match whole.head? with
          | some first => first.isDigit
          | none => word.head? == some '.' && (part.head?.any Char.isDigit)
        if wellFormed then
          (readPower? (rest.drop part.length)).map (pointedNumber negative whole part)
        else none
  | _ => none

/-- The number with a fraction that a word writes, if it writes one. -/
def readReal? (word : List Char) : Option (Except Refusal Binary64) :=
  match readPointed? word with
  | some number => some (.ok number)
  | none =>
      let (negative, rest) := unsigned word
      (readSexagesimal? rest).map fun read =>
        read.map fun number => if negative then number.negate else number

/-- The datum that a word without quotes stands for. -/
def datumOfWord (word : String) : Except Fault Datum :=
  if nullWords.contains word then .ok .null
  else if trueWords.contains word then .ok (.bool true)
  else if falseWords.contains word then .ok (.bool false)
  else if word == mergeWord || word == valueWord then .error .malformed
  else
    match readReal? word.toList, readInteger? word.toList with
    | some number, _ => (number.map Datum.real).mapError .refused
    | none, some number => (number.map Datum.integer).mapError .refused
    | none, none =>
        match readDayWord? word.toList, readMomentWord? word.toList with
        | some day, _ => (day.checked.map Datum.day).mapError (.refused ∘ .calendar)
        | none, some moment =>
            (moment.checked.map Datum.moment).mapError (.refused ∘ .calendar)
        | none, none => .ok (.text word)

end VersionCatalog.Yaml
