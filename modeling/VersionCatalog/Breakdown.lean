import VersionCatalog.Failure
import VersionCatalog.Files.System
import VersionCatalog.Yaml.Fault

/-!
# Breakdowns

A breakdown ends a query without an answer. Some breakdowns are failures with a message for the
reader; the others come from the files and texts that a query is given.
-/

namespace VersionCatalog

/-- What ends a query without an answer. -/
inductive Breakdown where
  /-- A failure that is reported to the reader. -/
  | failure (failure : Failure)
  /-- A file that cannot be looked at. -/
  | access (fault : AccessFault)
  /-- A file whose bytes are no text. -/
  | undecodable
  /-- A settings file with something that has no value. -/
  | refused (refusal : Yaml.Refusal)
  /-- An integer with too many digits to be written. -/
  | longInteger
  /-- Keys that are no texts and therefore cannot be named. -/
  | unnamedKeys

/-- What is said about a breakdown. -/
def Breakdown.message : Breakdown → String
  | failure reported => reported.message
  | access fault => fault.reason
  | undecodable => "The settings file is not UTF-8"
  | refused refusal => refusal.message
  | longInteger =>
      s!"Exceeds the limit ({Text.digitLimit} digits) for integer string conversion; " ++
        "use sys.set_int_max_str_digits() to increase the limit"
  | unnamedKeys => "The settings file has keys that are no texts"

/-- How an obstacle to writing a datum ends a query. -/
def Obstacle.breakdown : Obstacle → Breakdown
  | longInteger => .longInteger
  | exhausted => .refused .exhausted

/-- A datum as a literal, unless something stands in the way of writing it. -/
def Datum.written [CallStack] (datum : Datum) : Except Breakdown String :=
  match datum.obstacle? with
  | some obstacle => .error obstacle.breakdown
  | none => .ok datum.literal

end VersionCatalog
