import VersionCatalog.Check
import VersionCatalog.Files.System
import VersionCatalog.Text.Utf8

/-!
# Checking a file

A file is read once and checked as a text. A file that cannot be read, or whose bytes are not UTF-8,
gives the report of a single error. A leading byte-order mark does not count, neither in the text
nor in the place that is reported for an ill-formed byte.
-/

namespace VersionCatalog

variable [CallStack]

/-- The report on the content of a file. -/
def checkBytes (rules : List Rule) (scope : KeyScope) (time : Timestamp) (content : List UInt8) :
    Report :=
  match Text.Utf8.decode (Text.Utf8.dropMark content) with
  | .error offset =>
      Report.failed s!"Syntax error: invalid UTF-8 encoding at byte {offset}" "syntax" time
        (some "Save the catalog as UTF-8")
  | .ok text => checkText rules scope time (String.ofList text)

/-- The report on a file. Only a path that no file can have gives none. -/
def checkFile (system : FileSystem) (rules : List Rule) (scope : KeyScope) (time : Timestamp)
    (path : Path) : Except AccessFault Report :=
  match system.read path with
  | .ok content => .ok (checkBytes rules scope time content)
  | .error .nullCharacter => .error .nullCharacter
  | .error .missing =>
      .ok (Report.failed s!"TOML file does not exist: {path.text}" "source" time
        (some "Check the catalog path"))
  | .error fault =>
      .ok (Report.failed s!"Cannot read TOML file: {path.text}: {fault.reason}" "source" time
        (some "Check file permissions"))

end VersionCatalog
