import VersionCatalog.Json.Basic

/-!
# Findings

A finding is one problem that a rule reports. Only findings of the severity `error` make a catalog
invalid.
-/

namespace VersionCatalog

/-- How grave a finding is. -/
inductive Severity where
  /-- The catalog is invalid. -/
  | error
  /-- The catalog may be improved. -/
  | warning
  | info
deriving DecidableEq, Repr

namespace Severity

def name : Severity → String
  | error => "error"
  | warning => "warning"
  | info => "info"

def ofName? (name : String) : Option Severity :=
  [error, warning, info].find? fun severity => severity.name == name

end Severity

/-- A problem that a rule reports. -/
structure Finding where
  rule : String
  /-- How grave the problem is. -/
  severity : Severity
  message : String
  /-- How to mend it, if that is known. -/
  hint : Option String
deriving DecidableEq, Repr

/-- A finding as a JSON object; a hint that is not known is left out. -/
def Finding.toJson (finding : Finding) : Json :=
  let members :=
    [("rule_name", .text finding.rule), ("severity", .text finding.severity.name),
     ("message", .text finding.message)]
  match finding.hint with
  | some hint => .object (members ++ [("fix_hint", .text hint)])
  | none => .object members

end VersionCatalog
