import VersionCatalog.Failure
import VersionCatalog.Json.Writer
import VersionCatalog.Report

/-!
# Envelopes

A command prints its outcome as one JSON object: whether it succeeded, the name of the command, its
data, and what failed. The list of what failed is left out of a success.
-/

namespace VersionCatalog

/-- One thing that failed. -/
structure Problem where
  kind : String
  message : String
  /-- Its code, which findings do not have. -/
  code : Option String
deriving DecidableEq, Repr

namespace Problem

def ofFailure (failure : Failure) : Problem :=
  ⟨failure.kind.name, failure.message, some failure.kind.code⟩

/-- The message of a finding as a problem. -/
def ofMessage (message : String) : Problem :=
  ⟨"ValidationError", message, none⟩

/-- A problem as a JSON object. -/
def toJson (problem : Problem) : Json :=
  let members := [("type", Json.text problem.kind), ("message", .text problem.message)]
  match problem.code with
  | some code => .object (members ++ [("code", .text code)])
  | none => .object members

end Problem

/-- The outcome of a command. -/
structure Envelope where
  /-- Whether the command succeeded. -/
  success : Bool
  command : String
  /-- The members of its data. -/
  data : List (String × Json)
  /-- What failed, in order; there is no such list for a success. -/
  problems : Option (List Problem)

namespace Envelope

def failed (command : String) (problems : List Problem) (data : List (String × Json)) : Envelope :=
  ⟨false, command, data, some problems⟩

/-- The messages of a report that make a command fail: its errors and, when it is strict, its
warnings after them. -/
def failingMessages (report : Report) (strict : Bool) : List String :=
  if strict then report.errors ++ report.warnings else report.errors

/-- The envelope of a report, with further data set in that of the report. -/
def ofReport (command : String) (report : Report) (strict : Bool) (extra : List (String × Json)) :
    Envelope :=
  let data := Json.setMembers report.members extra
  match failingMessages report strict with
  | [] => ⟨true, command, data, none⟩
  | messages => failed command (messages.map Problem.ofMessage) data

/-- An envelope as a JSON object. -/
def toJson (envelope : Envelope) : Json :=
  let members :=
    [("success", Json.bool envelope.success), ("command", .text envelope.command),
     ("data", .object envelope.data)]
  match envelope.problems with
  | some problems => .object (members ++ [("errors", .array (problems.map Problem.toJson))])
  | none => .object members

/-- An envelope as text. -/
def render (layout : Json.Layout) (envelope : Envelope) : String :=
  envelope.toJson.render layout

end Envelope

end VersionCatalog
