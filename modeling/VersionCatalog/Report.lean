import VersionCatalog.Finding
import VersionCatalog.Timestamp

/-!
# Reports

A report is the outcome of one check: the messages of its errors and of its warnings, the findings
behind them, and the time of the check. A catalog is valid when its report has no error.
-/

namespace VersionCatalog

/-- The outcome of a check. -/
structure Report where
  /-- The messages of the errors in order. -/
  errors : List String
  /-- The messages of the warnings in order. -/
  warnings : List String
  /-- When the check was made. -/
  time : Timestamp
  /-- The findings in order. -/
  findings : List Finding
deriving DecidableEq, Repr

namespace Report

def messages (severity : Severity) (findings : List Finding) : List String :=
  (findings.filter fun finding => finding.severity == severity).map Finding.message

def ofFindings (findings : List Finding) (time : Timestamp) : Report :=
  ⟨messages .error findings, messages .warning findings, time, findings⟩

/-- The report of a single error. -/
def failed (message rule : String) (time : Timestamp) (hint : Option String) : Report :=
  ofFindings [⟨rule, .error, message, hint⟩] time

/-- Whether there is no error. -/
def isValid (report : Report) : Bool :=
  report.errors.isEmpty

/-- Whether two reports have the same errors and warnings at the same instant. -/
def agrees (left right : Report) : Bool :=
  left.errors == right.errors && left.warnings == right.warnings &&
    left.time.instant == right.time.instant

/-- The members of a report as a JSON object. -/
def members (report : Report) : List (String × Json) :=
  [("is_valid", .bool report.isValid),
   ("error_count", .integer report.errors.length),
   ("warning_count", .integer report.warnings.length),
   ("errors", .texts report.errors),
   ("warnings", .texts report.warnings),
   ("timestamp", .text report.time.text),
   ("timestamp_ms", .integer report.time.milliseconds),
   ("findings", .array (report.findings.map Finding.toJson))]

/-- A report as a JSON object. -/
def toJson (report : Report) : Json :=
  .object report.members

end Report

end VersionCatalog
