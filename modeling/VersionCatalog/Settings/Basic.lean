import VersionCatalog.Breakdown
import VersionCatalog.Rule.Basic
import VersionCatalog.Settings.Environment
import VersionCatalog.Text.Blank

/-!
# Settings

A setting is taken from the first place that gives it: the command line, the environment, the
settings file, and last the value that it has by default. White space around a value and the case of
its letters do not count.
-/

namespace VersionCatalog

/-- How a command shows its outcome. -/
inductive OutputFormat where
  /-- As lines for the reader. -/
  | text
  | json
deriving DecidableEq, Repr

namespace OutputFormat

def name : OutputFormat → String
  | text => "text"
  | json => "json"

def all : List OutputFormat := [text, json]

/-- The names of the formats. -/
def names : List String := all.map name

def ofName? (name : String) : Option OutputFormat :=
  all.find? fun format => format.name == name

end OutputFormat

/-- The settings of a command. -/
structure Settings where
  /-- What the checks of version forms and of repeated keys look at. -/
  scope : KeyScope
  /-- Whether warnings make the command fail. -/
  strict : Bool
  /-- How the outcome is shown. -/
  format : OutputFormat
  /-- The path of the settings file, if there is one. -/
  source : Option String
deriving DecidableEq, Repr

namespace Settings

/-- The settings with the values that they have by default. -/
def defaults : List (String × Datum) :=
  [("key_scope", .text "namespace"), ("strict", .bool false), ("format", .text "text")]

/-- The value of a setting, from the first place that gives it. A key that is not known may still be
given a value. -/
def value (key : String) (given : Datum) (environment : Environment)
    (file : List (Datum × Datum)) : Datum :=
  match given with
  | .null =>
      match environment.get? (Environment.variableOf key) with
      | some text => .text text
      | none => (Datum.valueOf? key file).getD ((defaults.lookup key).getD .null)
  | _ => given

/-- A value in the form in which it is compared with choices. The choices are lower-case Latin words
without the letter `k`, so that no letter beyond Latin has a lower case that occurs in them. -/
def normalized (value : Datum) : String :=
  String.ofList ((Text.strip value.shown.toList).map Char.toLower)

/-- The words for a truth value that holds. -/
def trueWords : List String := ["1", "true", "yes", "on"]

/-- The words for a truth value that does not hold. -/
def falseWords : List String := ["0", "false", "no", "off", ""]

section

variable [CallStack]

/-- Reads a value as a truth value. -/
def readBool (key : String) (value : Datum) : Except Breakdown Bool :=
  match value with
  | .bool value => .ok value
  | _ =>
      match value.obstacle? with
      | some obstacle => .error obstacle.breakdown
      | none =>
          if trueWords.contains (normalized value) then .ok true
          else if falseWords.contains (normalized value) then .ok false
          else .error (.failure (.invalidSetting key value ["true", "false"]))

/-- Reads a value as one of the named choices. -/
def readChoice {α : Type} (ofName? : String → Option α) (choices : List String) (key : String)
    (value : Datum) : Except Breakdown α :=
  match value.obstacle? with
  | some obstacle => .error obstacle.breakdown
  | none =>
      match ofName? (normalized value) with
      | some choice => .ok choice
      | none => .error (.failure (.invalidSetting key value choices))

end

/-- What the command line gives. -/
structure Given where
  /-- The scope, or nothing. -/
  scope : Datum
  /-- Whether warnings make the command fail, or nothing. -/
  strict : Datum
  /-- The format, or nothing. -/
  format : Datum

/-- The settings that the three places amount to. -/
def combine [CallStack] (given : Given) (environment : Environment) (file : List (Datum × Datum))
    (source : Option String) : Except Breakdown Settings := do
  let scope ← readChoice KeyScope.ofName? KeyScope.names "key_scope"
    (value "key_scope" given.scope environment file)
  let strict ← readBool "strict" (value "strict" given.strict environment file)
  let format ← readChoice OutputFormat.ofName? OutputFormat.names "format"
    (value "format" given.format environment file)
  return ⟨scope, strict, format, source⟩

/-- The texts among keys, if all are texts. -/
def keyTexts? : List Datum → Option (List String)
  | [] => some []
  | .text key :: keys => (keyTexts? keys).map (key :: ·)
  | _ :: _ => none

/-- The keys that are no settings, in order, if all of them are texts. -/
def unknownKeys? (file : List (Datum × Datum)) : Option (List String) :=
  let unknown := (file.map Prod.fst).filter fun key =>
    !(defaults.any fun setting => key.sameKey (.text setting.1))
  (keyTexts? unknown).map fun keys => keys.mergeSort fun left right => decide (left ≤ right)

end Settings

end VersionCatalog
