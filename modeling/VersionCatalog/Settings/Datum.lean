import VersionCatalog.CallStack
import VersionCatalog.Json.Basic
import VersionCatalog.Number.Decimal
import VersionCatalog.Settings.Moment
import VersionCatalog.Text.Digit
import VersionCatalog.Text.Quoted

/-!
# Data of a settings file

A settings file holds data: nothing, truth values, numbers, days, moments, texts, lists, and
mappings from data to data. A message shows a datum as a literal.
-/

namespace VersionCatalog

/-- What stands in the way of writing a datum. -/
inductive Obstacle where
  /-- An integer with too many digits. -/
  | longInteger
  /-- Lists and mappings that are nested too deeply for the call stack. -/
  | exhausted
deriving DecidableEq, Repr

/-- A datum. -/
inductive Datum where
  | null
  /-- A truth value. -/
  | bool (value : Bool)
  | integer (value : Int)
  /-- A number with a fraction. -/
  | real (value : Binary64)
  | day (value : CalendarDay)
  | moment (value : Moment)
  | text (content : String)
  | list (items : List Datum)
  /-- A mapping, in the order of its keys. -/
  | mapping (pairs : List (Datum × Datum))
  /-- Anything else, such as bytes or a set, with its literal or what stands in the way of it. -/
  | other (written : Except Obstacle String)

namespace Datum

mutual

def literal : Datum → String
  | null => "None"
  | bool value => if value then "True" else "False"
  | integer value => toString value
  | real value => value.numeral
  | day value => value.literal
  | moment value => value.literal
  | text content => String.ofList (Text.quoted content.toList)
  | list items => "[" ++ ", ".intercalate (literals items) ++ "]"
  | mapping pairs => "\x7b" ++ ", ".intercalate (pairLiterals pairs) ++ "\x7d"
  | other written => written.toOption.getD ""

/-- The literals of the items of a list. -/
def literals : List Datum → List String
  | [] => []
  | item :: items => literal item :: literals items

/-- The literals of the pairs of a mapping. -/
def pairLiterals : List (Datum × Datum) → List String
  | [] => []
  | (key, value) :: pairs => (literal key ++ ": " ++ literal value) :: pairLiterals pairs

end

mutual

/-- The first obstacle to writing a datum in which lists and mappings may be nested as deeply as
`depth` says. -/
def obstacleWithin (depth : Nat) : Datum → Option Obstacle
  | integer value => if value.natAbs < Nat.pow 10 Text.digitLimit then none else some .longInteger
  | list items =>
      match depth with
      | 0 => some .exhausted
      | depth + 1 => itemsObstacle depth items
  | mapping pairs =>
      match depth with
      | 0 => some .exhausted
      | depth + 1 => pairsObstacle depth pairs
  | other (.error obstacle) => some obstacle
  | _ => none

/-- The first obstacle to writing the items of a list. -/
def itemsObstacle (depth : Nat) : List Datum → Option Obstacle
  | [] => none
  | item :: items => (obstacleWithin depth item).or (itemsObstacle depth items)

/-- The first obstacle to writing the pairs of a mapping. -/
def pairsObstacle (depth : Nat) : List (Datum × Datum) → Option Obstacle
  | [] => none
  | (key, value) :: pairs =>
      ((obstacleWithin depth key).or (obstacleWithin depth value)).or (pairsObstacle depth pairs)

end

/-- The first obstacle to writing a datum, if there is any. -/
def obstacle? [CallStack] (datum : Datum) : Option Obstacle :=
  datum.obstacleWithin CallStack.writtenDepth

/-- A text, a day or a moment as it is, and any other datum as a literal. -/
def shown : Datum → String
  | text content => content
  | day value => value.text
  | moment value => value.text
  | datum => datum.literal

/-- The integer that a truth value or an integer counts as. -/
def integer? : Datum → Option Int
  | bool value => some (if value then 1 else 0)
  | integer value => some value
  | _ => none

/-- Whether two data are the same key of a mapping. Truth values count as one and zero, and numbers
are compared by value; what is no number is one key. Lists and mappings cannot be keys. -/
def sameKey : Datum → Datum → Bool
  | null, null => true
  | real .nan, real .nan => true
  | text left, text right => left == right
  | day left, day right => left == right
  | moment left, moment right => left.isSame right
  | real left, real right => left.equals right
  | real left, right => right.integer?.any left.isInteger
  | left, real right => left.integer?.any right.isInteger
  | left, right =>
      match left.integer?, right.integer? with
      | some left, some right => left == right
      | _, _ => false

/-- The pairs after a value is set: in place of the value of the same key, or after all others. -/
def setPair (key value : Datum) : List (Datum × Datum) → List (Datum × Datum)
  | [] => [(key, value)]
  | (name, old) :: pairs =>
      if name.sameKey key then (name, value) :: pairs else (name, old) :: setPair key value pairs

/-- The value under a key that is a text. -/
def valueOf? (key : String) : List (Datum × Datum) → Option Datum
  | [] => none
  | (name, value) :: pairs => if name.sameKey (text key) then some value else valueOf? key pairs

mutual

/-- The datum that a JSON value says. -/
def ofJson : Json → Datum
  | .null => null
  | .bool value => bool value
  | .integer value => integer value
  | .real value => real value
  | .text content => text content
  | .array items => list (ofItems items)
  | .object members => mapping (ofMembers members)

/-- The data that the items of a JSON array say. -/
def ofItems : List Json → List Datum
  | [] => []
  | item :: items => ofJson item :: ofItems items

/-- The pairs that the members of a JSON object say. -/
def ofMembers : List (String × Json) → List (Datum × Datum)
  | [] => []
  | (key, value) :: members => (text key, ofJson value) :: ofMembers members

end

mutual

/-- A datum as a JSON value; the keys of a mapping that are no texts are shown as literals. -/
def toJson : Datum → Json
  | null => .null
  | bool value => .bool value
  | integer value => .integer value
  | real value => .real value
  | day value => .text value.text
  | moment value => .text value.text
  | text content => .text content
  | list items => .array (itemsToJson items)
  | mapping pairs => .object (pairsToJson pairs)
  | other written => .text (written.toOption.getD "")

/-- The items of a list as JSON values. -/
def itemsToJson : List Datum → List Json
  | [] => []
  | item :: items => toJson item :: itemsToJson items

/-- The pairs of a mapping as the members of a JSON object. -/
def pairsToJson : List (Datum × Datum) → List (String × Json)
  | [] => []
  | (key, value) :: pairs => (key.shown, toJson value) :: pairsToJson pairs

end

end Datum

end VersionCatalog
