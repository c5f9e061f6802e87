import VersionCatalog.Number.Binary64

/-!
# JSON values

The members of an object keep their order. Setting a member replaces its value in place, or adds it
after the others.
-/

namespace VersionCatalog

/-- A JSON value. -/
inductive Json where
  | null
  /-- A truth value. -/
  | bool (value : Bool)
  /-- A number without a fraction. -/
  | integer (value : Int)
  /-- A number with a fraction or a power of ten. -/
  | real (value : Binary64)
  | text (content : String)
  | array (items : List Json)
  | object (members : List (String × Json))

namespace Json

/-- The members after one is set. -/
def setMember (key : String) (value : Json) : List (String × Json) → List (String × Json)
  | [] => [(key, value)]
  | (name, old) :: members =>
      if name = key then (name, value) :: members
      else (name, old) :: setMember key value members

/-- The members after others are set one after the other. -/
def setMembers (members changes : List (String × Json)) : List (String × Json) :=
  changes.foldl (fun members change => setMember change.1 change.2 members) members

/-- The member of an object. -/
def get? (key : String) : Json → Option Json
  | object members => members.lookup key
  | _ => none

/-- An array of texts. -/
def texts (items : List String) : Json :=
  array (items.map text)

end Json

end VersionCatalog
