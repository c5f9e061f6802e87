import VersionCatalog.Json.Basic
import VersionCatalog.Text.Hexadecimal

/-!
# Reading JSON

A text is read as a JSON value, with white space around values and marks. When a key of an object is
given again, the later value replaces the earlier one in its place.
-/

namespace VersionCatalog.Json

open Text

/-- White space between the marks of JSON. -/
def isGap (char : Char) : Bool :=
  char == ' ' || char == '\t' || char == '\n' || char == '\r'

/-- The text after white space. -/
def skipGap (input : List Char) : List Char :=
  input.dropWhile isGap

/-- The character that a simple escape stands for. -/
def simpleEscape? : Char → Option Char
  | '"' => some '"'
  | '\\' => some '\\'
  | '/' => some '/'
  | 'b' => some '\x08'
  | 'f' => some '\x0c'
  | 'n' => some '\n'
  | 'r' => some '\r'
  | 't' => some '\t'
  | _ => none

/-- The code unit that four hexadecimal digits write. -/
def codeUnit? (digits : List Char) : Option Nat :=
  digits.foldlM (fun unit digit => (hexValue? digit).map (16 * unit + ·)) 0

/-- Takes a code unit after a first half of a surrogate pair, if one is waiting: a character or
nothing yet, with the half that now waits. -/
def takeUnit? (waiting : Option Nat) (unit : Nat) : Option (List Char × Option Nat) :=
  match waiting with
  | some high =>
      if 0xdc00 ≤ unit ∧ unit < 0xe000 then
        some ([Char.ofNat (0x10000 + (high - 0xd800) * 0x400 + (unit - 0xdc00))], none)
      else none
  | none =>
      if 0xd800 ≤ unit ∧ unit < 0xdc00 then some ([], some unit)
      else if unit.isValidChar then some ([Char.ofNat unit], none)
      else none

/-- Reads the content of a text up to the closing quote, giving what stands after it too. -/
def readContent (waiting : Option Nat) : List Char → Option (List Char × List Char)
  | [] => none
  | '"' :: rest => if waiting.isNone then some ([], rest) else none
  | '\\' :: 'u' :: a :: b :: c :: d :: rest => do
      let unit ← codeUnit? [a, b, c, d]
      let (chars, waiting) ← takeUnit? waiting unit
      let (content, rest) ← readContent waiting rest
      some (chars ++ content, rest)
  | '\\' :: marker :: rest => do
      let char ← simpleEscape? marker
      if waiting.isSome then none
      else
        let (content, rest) ← readContent none rest
        some (char :: content, rest)
  | char :: rest =>
      if waiting.isSome || char.toNat < 0x20 || char == '\\' then none
      else do
        let (content, rest) ← readContent none rest
        some (char :: content, rest)

/-- A run of digits and what stands after it. -/
def spanDigits (input : List Char) : List Char × List Char :=
  (input.takeWhile Char.isDigit, input.dropWhile Char.isDigit)

/-- The number that a run of digits writes. -/
def ofDigits (digits : List Char) : Nat :=
  digits.foldl (fun number digit => 10 * number + (digit.toNat - '0'.toNat)) 0

/-- Reads the digits after a point, if there is one. -/
def readFraction : List Char → Option (List Char × List Char)
  | '.' :: rest =>
      let (digits, rest) := spanDigits rest
      if digits.isEmpty then none else some (digits, rest)
  | rest => some ([], rest)

/-- Reads the power of ten, if there is one. -/
def readPower (input : List Char) : Option (Option Int × List Char) :=
  match input with
  | mark :: rest =>
      if mark = 'e' ∨ mark = 'E' then
        let (negative, rest) :=
          match rest with
          | '-' :: rest => (true, rest)
          | '+' :: rest => (false, rest)
          | rest => (false, rest)
        let (digits, rest) := spanDigits rest
        if digits.isEmpty then none
        else
          let power : Int := ofDigits digits
          some (some (if negative then -power else power), rest)
      else some (none, input)
  | [] => some (none, [])

def readNumber (input : List Char) : Option (Json × List Char) :=
  let (negative, unsigned) :=
    match input with
    | '-' :: rest => (true, rest)
    | rest => (false, rest)
  let (whole, rest) := spanDigits unsigned
  if whole.isEmpty || (whole.head? == some '0' && whole.length != 1) then none
  else do
    let (part, rest) ← readFraction rest
    let (power, rest) ← readPower rest
    if part.isEmpty && power.isNone then
      let size : Int := ofDigits whole
      some (integer (if negative then -size else size), rest)
    else
      let exponent := power.getD 0 - part.length
      some (real (Binary64.ofDecimal negative (ofDigits (whole ++ part)) exponent), rest)

/-- Reads the rest of an array after its bracket or after a comma. -/
def readItems (readItem : List Char → Option (Json × List Char)) (rounds : List Char)
    (input : List Char) : Option (List Json × List Char) := do
  let (item, rest) ← readItem input
  match skipGap rest with
  | ']' :: rest => some ([item], rest)
  | ',' :: rest =>
      match rounds with
      | [] => none
      | _ :: rounds =>
          let (items, rest) ← readItems readItem rounds rest
          some (item :: items, rest)
  | _ => none

/-- Reads a member of an object: its key, a colon, and its value. -/
def readMember (readItem : List Char → Option (Json × List Char)) (input : List Char) :
    Option ((String × Json) × List Char) :=
  match skipGap input with
  | '"' :: rest => do
      let (key, rest) ← readContent none rest
      match skipGap rest with
      | ':' :: rest =>
          let (value, rest) ← readItem rest
          some ((String.ofList key, value), rest)
      | _ => none
  | _ => none

/-- Reads the rest of an object after its brace or after a comma, setting each member. -/
def readMembers (readItem : List Char → Option (Json × List Char)) (rounds : List Char)
    (members : List (String × Json)) (input : List Char) :
    Option (List (String × Json) × List Char) := do
  let (member, rest) ← readMember readItem input
  let members := setMember member.1 member.2 members
  match skipGap rest with
  | '\x7d' :: rest => some (members, rest)
  | ',' :: rest =>
      match rounds with
      | [] => none
      | _ :: rounds => readMembers readItem rounds members rest
  | _ => none

/-- Reads a word that stands for a value. -/
def readWord (word : String) (value : Json) (input : List Char) : Option (Json × List Char) :=
  if word.toList.isPrefixOf input then some (value, input.drop word.toList.length) else none

/-- Reads a value that is nested at most as deep as `depth` has characters. -/
def readWithin (depth : List Char) (input : List Char) : Option (Json × List Char) :=
  let input := skipGap input
  match input, depth with
  | '[' :: rest, _ :: depth =>
      match skipGap rest with
      | ']' :: rest => some (array [], rest)
      | _ => (readItems (readWithin depth) rest rest).map fun (items, rest) => (array items, rest)
  | '\x7b' :: rest, _ :: depth =>
      match skipGap rest with
      | '\x7d' :: rest => some (object [], rest)
      | _ =>
          (readMembers (readWithin depth) rest [] rest).map
            fun (members, rest) => (object members, rest)
  | '"' :: rest, _ =>
      (readContent none rest).map fun (content, rest) => (text (String.ofList content), rest)
  | 't' :: _, _ => readWord "true" (bool true) input
  | 'f' :: _, _ => readWord "false" (bool false) input
  | 'n' :: _, _ => readWord "null" null input
  | 'N' :: _, _ => readWord "NaN" (real .nan) input
  | 'I' :: _, _ => readWord "Infinity" (real (.infinite false)) input
  | '-' :: 'I' :: _, _ => readWord "-Infinity" (real (.infinite true)) input
  | _, _ => readNumber input

/-- Reads a text as a value, which nothing but white space may follow. -/
def read? (input : String) : Option Json :=
  match readWithin input.toList input.toList with
  | some (value, rest) => if (skipGap rest).isEmpty then some value else none
  | none => none

end VersionCatalog.Json
