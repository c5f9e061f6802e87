import VersionCatalog.Text.UpperCase

/-!
# The environment

Variables with texts, each of which may be set once. The variable of a setting has the name of the
program before the name of the setting, both in upper case.
-/

namespace VersionCatalog

/-- The variables that are set, with their texts. -/
abbrev Environment := List (String × String)

namespace Environment

/-- The text of a variable. -/
def get? (environment : Environment) (name : String) : Option String :=
  environment.lookup name

/-- The environment after a variable is taken away. -/
def unset (environment : Environment) (name : String) : Environment :=
  environment.filter fun entry => entry.1 != name

/-- The environment after a variable is set. -/
def set (environment : Environment) (name text : String) : Environment :=
  (name, text) :: environment.unset name

/-- Why a variable cannot be set. -/
inductive Refusal where
  /-- A null character stands in its name or its text. -/
  | nullCharacter
  /-- An equals sign stands in its name. -/
  | equalsSign
  | unnamed
deriving DecidableEq, Repr

/-- What is said about a variable that cannot be set. -/
def Refusal.message : Refusal → String
  | nullCharacter => "embedded null byte"
  | equalsSign => "illegal environment variable name"
  | unnamed => "Invalid argument"

/-- The environment after a variable is set, if it can be. -/
def setChecked (environment : Environment) (name text : String) : Except Refusal Environment :=
  if (name ++ text).toList.contains '\x00' then .error .nullCharacter
  else if name.toList.contains '=' then .error .equalsSign
  else if name.isEmpty then .error .unnamed
  else .ok (environment.set name text)

/-- The name of the variable of a setting. -/
def variableOf (key : String) : String :=
  "CATALINT_" ++ String.ofList (Text.upper key.toList)

end Environment

end VersionCatalog
