import VersionCatalog.Occurrence

/-!
# Values of a document

As written, a value is a text, an array of texts, or an inline table whose fields have values again.
A table inside a table only lengthens the names of its fields: `version = { require = "1" }` says
the same as `version.require = "1"`. A value is therefore kept with its tables flattened.
-/

namespace VersionCatalog.Document

/-- A value as it is written. -/
inductive Node where
  /-- A quoted text, a number or a truth value. -/
  | text (content : String)
  | array (items : List String)
  /-- An inline table, with its fields in order. -/
  | table (fields : List (String × Node))

/-- The value of a field of a flattened table. -/
inductive Leaf where
  | text (content : String)
  | array (items : List String)
deriving DecidableEq, Repr

/-- The fields of a flattened table in order, fields of one name included. -/
abbrev Table := List (String × Leaf)

namespace Table

/-- The value of the first field of that name. -/
def get? (table : Table) (name : String) : Option Leaf :=
  table.lookup name

/-- The text of the first field of that name, if it is a text. -/
def text? (table : Table) (name : String) : Option String :=
  match table.get? name with
  | some (.text content) => some content
  | _ => none

/-- The names of the fields in order. -/
def names (table : Table) : List String :=
  table.map Prod.fst

/-- The names that an earlier field has too, one for every further field. -/
def repeatedNames (table : Table) : List String :=
  laterOccurrences table.names

end Table

/-- A value with its tables flattened. -/
inductive Value where
  | text (content : String)
  | array (items : List String)
  /-- A flattened table. -/
  | table (table : Table)
deriving DecidableEq, Repr

mutual

/-- The fields that a field of this name and value amounts to. -/
def Node.flattenField (name : String) : Node → Table
  | .text content => [(name, .text content)]
  | .array items => [(name, .array items)]
  | .table fields => (flattenFields fields).map fun field => (name ++ "." ++ field.1, field.2)

/-- The fields that the fields of a table amount to. -/
def Node.flattenFields : List (String × Node) → Table
  | [] => []
  | (name, node) :: fields => node.flattenField name ++ flattenFields fields

end

/-- A written value with its tables flattened. -/
def Node.flatten : Node → Value
  | .text content => .text content
  | .array items => .array items
  | .table fields => .table (flattenFields fields)

end VersionCatalog.Document
