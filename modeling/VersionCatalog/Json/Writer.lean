import VersionCatalog.Json.Basic
import VersionCatalog.Number.Decimal
import VersionCatalog.Text.Hexadecimal

/-!
# Writing JSON

A value is written on one line, or with every item and member on a line of its own. Characters stand
for themselves unless JSON requires an escape.
-/

namespace VersionCatalog.Json

open Text

/-- How a value is laid out. -/
inductive Layout where
  /-- On one line, with a space after every comma and colon. -/
  | line
  /-- Every item and member on its own line, indented by this many spaces for each level. -/
  | indented (width : Nat)
deriving DecidableEq, Repr

/-- What stands between the items of a level. -/
def Layout.separator (layout : Layout) (level : Nat) : List Char :=
  match layout with
  | line => [',', ' ']
  | indented width => ',' :: '\n' :: List.replicate (width * level) ' '

/-- What stands between a bracket and the items of a level. -/
def Layout.margin (layout : Layout) (level : Nat) : List Char :=
  match layout with
  | line => []
  | indented width => '\n' :: List.replicate (width * level) ' '

/-- A character as it stands in a text. -/
def escapedChar (char : Char) : List Char :=
  match char with
  | '"' => ['\\', '"']
  | '\\' => ['\\', '\\']
  | '\n' => ['\\', 'n']
  | '\r' => ['\\', 'r']
  | '\t' => ['\\', 't']
  | '\x08' => ['\\', 'b']
  | '\x0c' => ['\\', 'f']
  | _ => if char.toNat < 0x20 then '\\' :: 'u' :: hexadecimal 4 char.toNat else [char]

/-- A text between quotes. -/
def escaped (content : String) : List Char :=
  '"' :: content.toList.flatMap escapedChar ++ ['"']

/-- The parts of an array or an object between brackets, nothing standing between the brackets
when there are no parts. -/
def enclosed (layout : Layout) (level : Nat) (opening closing : Char) (parts : List (List Char)) :
    List Char :=
  if parts.isEmpty then [opening, closing]
  else
    opening :: layout.margin (level + 1) ++
      (layout.separator (level + 1)).intercalate parts ++ layout.margin level ++ [closing]

/-- A number with a fraction as it stands in a text. Infinities and what is no number are words. -/
def realText : Binary64 → String
  | .infinite negative => if negative then "-Infinity" else "Infinity"
  | .nan => "NaN"
  | value => value.numeral

mutual

/-- A value as text, at a level of nesting. -/
def renderAt (layout : Layout) (level : Nat) : Json → List Char
  | null => "null".toList
  | bool value => if value then "true".toList else "false".toList
  | integer value => (toString value).toList
  | real value => (realText value).toList
  | text content => escaped content
  | array items => enclosed layout level '[' ']' (renderItems layout (level + 1) items)
  | object members =>
      enclosed layout level '\x7b' '\x7d' (renderMembers layout (level + 1) members)

/-- The items of an array as texts. -/
def renderItems (layout : Layout) (level : Nat) : List Json → List (List Char)
  | [] => []
  | item :: items => renderAt layout level item :: renderItems layout level items

/-- The members of an object as texts. -/
def renderMembers (layout : Layout) (level : Nat) : List (String × Json) → List (List Char)
  | [] => []
  | (key, value) :: members =>
      (escaped key ++ [':', ' '] ++ renderAt layout level value) ::
        renderMembers layout level members

end

/-- A value as text. -/
def render (layout : Layout) (value : Json) : String :=
  String.ofList (renderAt layout 0 value)

end VersionCatalog.Json
