import VersionCatalog.Catalog.Basic
import VersionCatalog.Finding

/-!
# Rules

A rule looks at the text of a catalog and at what it declares, and reports findings in a fixed
order. A rule may also break off, which ends the whole check.
-/

namespace VersionCatalog

/-- What the checks of version forms and of repeated keys look at. -/
inductive KeyScope where
  /-- What the sections declare. -/
  | namespaced
  /-- Every assignment in the text. -/
  | document
deriving DecidableEq, Repr

namespace KeyScope

def name : KeyScope → String
  | namespaced => "namespace"
  | document => "document"

def all : List KeyScope := [namespaced, document]

/-- The names of the scopes. -/
def names : List String := all.map name

def ofName? (name : String) : Option KeyScope :=
  all.find? fun scope => scope.name == name

end KeyScope

/-- What a rule may look at. -/
structure RuleContext where
  text : List Char
  /-- What the text declares. -/
  catalog : Catalog
  /-- What the checks of version forms and of repeated keys look at. -/
  scope : KeyScope

/-- The reason why a rule broke off. -/
structure Interruption where
  /-- The words of the reason. -/
  message : String
deriving DecidableEq, Repr

/-- A rule. -/
structure Rule where
  name : String
  /-- The severity of its findings, unless they say otherwise. -/
  severity : Severity
  description : String
  /-- The findings of the rule. -/
  check : RuleContext → Except Interruption (List Finding)

end VersionCatalog
