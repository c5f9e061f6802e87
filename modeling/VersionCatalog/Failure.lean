import VersionCatalog.Document.Fault
import VersionCatalog.Settings.Datum

/-!
# Failures

A failure is reported by its kind, a code and a message, together with named details. Kinds form a
tree: a repeated section is a malformed catalog, which is a failure.
-/

namespace VersionCatalog

namespace Failure

/-- The kinds of failures. -/
inductive Kind where
  | general
  /-- A catalog that cannot be read. -/
  | malformed
  /-- A section that is declared twice. -/
  | repeatedSection
  | settings
  /-- A settings file that cannot be read. -/
  | unreadableSettings
  /-- A setting with a value that is not allowed. -/
  | invalidSetting
deriving DecidableEq, Repr

namespace Kind

/-- The name that a kind is reported by. -/
def name : Kind → String
  | general => "CatalintError"
  | malformed => "TomlSyntaxError"
  | repeatedSection => "DuplicateSectionError"
  | settings => "ConfigError"
  | unreadableSettings => "ConfigParseError"
  | invalidSetting => "InvalidSettingError"

/-- The code that a kind is reported by. -/
def code : Kind → String
  | general => "CTL-000"
  | malformed => "CTL-SYN001"
  | repeatedSection => "CTL-SYN002"
  | settings => "CTL-CFG000"
  | unreadableSettings => "CTL-CFG001"
  | invalidSetting => "CTL-CFG002"

/-- The kinds that a kind belongs to, itself first. -/
def lineage : Kind → List Kind
  | general => [general]
  | malformed => [malformed, general]
  | repeatedSection => [repeatedSection, malformed, general]
  | settings => [settings, general]
  | unreadableSettings => [unreadableSettings, settings, general]
  | invalidSetting => [invalidSetting, settings, general]

end Kind

end Failure

/-- A failure. -/
inductive Failure where
  /-- A failure that is known by its message only. -/
  | general (message : String) (details : List (String × Json))
  /-- A catalog that cannot be read. -/
  | malformed (reason : String) (line : Option Int)
  /-- A section that is declared twice. -/
  | repeatedSection (sectionName : String) (line : Option Int)
  /-- A failure of the settings that is known by its message only. -/
  | settings (message : String) (details : List (String × Json))
  /-- A settings file that cannot be read. -/
  | unreadableSettings (path reason : String)
  /-- A setting with a value that is not among the choices. -/
  | invalidSetting (key : String) (value : Datum) (choices : List String)

namespace Failure

def kind : Failure → Kind
  | general .. => .general
  | malformed .. => .malformed
  | repeatedSection .. => .repeatedSection
  | settings .. => .settings
  | unreadableSettings .. => .unreadableSettings
  | invalidSetting .. => .invalidSetting

/-- A reason with the line that it is reported for, if there is one. -/
def located (reason : String) : Option Int → String
  | some line => s!"{reason} (line {line})"
  | none => reason

/-- Why a catalog cannot be read, and where. -/
def fault? : Failure → Option (String × Option Int)
  | malformed reason line => some (reason, line)
  | repeatedSection name line => some ((Document.Cause.repeatedSection name).reason, line)
  | _ => none

def message : Failure → String
  | general message _ => message
  | malformed reason line => located reason line
  | repeatedSection name line => located (Document.Cause.repeatedSection name).reason line
  | settings message _ => message
  | unreadableSettings path reason => s!"Failed to parse config file {path}: {reason}"
  | invalidSetting key value choices =>
      let allowed := ", ".intercalate choices
      s!"Invalid value for '{key}': {value.literal} (expected one of: {allowed})"

/-- The message with the code before it. -/
def codedMessage (failure : Failure) : String :=
  s!"[{failure.kind.code}] {failure.message}"

/-- The details of a failure by name. -/
def details : Failure → List (String × Json)
  | general _ details => details
  | settings _ details => details
  | unreadableSettings path reason => [("path", .text path), ("parse_error", .text reason)]
  | invalidSetting key value choices =>
      [("key", .text key), ("value", value.toJson), ("choices", .texts choices)]
  | failure =>
      match failure.fault? with
      | some (reason, line) =>
          [("reason", .text reason), ("line", line.elim .null .integer),
           ("detail", .text failure.message)]
      | none => []

/-- The names that every failure uses itself, under which no detail can be looked up. -/
def reservedNames : List String := ["code", "message", "context", "args"]

def detail? (failure : Failure) (name : String) : Option Json :=
  if name ∈ reservedNames then none else failure.details.lookup name

/-- The failure that a fault of a document is reported as. -/
def ofFault (fault : Document.Fault) : Failure :=
  match fault.cause with
  | .repeatedSection name => repeatedSection name (some fault.line)
  | cause => malformed cause.reason (some fault.line)

end Failure

end VersionCatalog
