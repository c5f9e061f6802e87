import VersionCatalog.Check.Trace
import VersionCatalog.CommandLine.Command
import VersionCatalog.Console.Style
import VersionCatalog.Envelope
import VersionCatalog.Files.Tree
import VersionCatalog.Settings.File

/-!
# Running a command line

The outcome of a command line is what it prints, piece by piece, and its exit status. A check
exits with zero when the catalog passes, which in strict mode means that it has no warnings either;
the JSON envelope and the last line for the reader say the same.
-/

namespace VersionCatalog.CommandLine

open Console

/-- What a command line depends on besides its words. -/
structure World where
  /-- The files as the system knows them. -/
  files : FileSystem
  environment : Environment
  time : Timestamp

/-- A piece of what is printed. -/
inductive Piece where
  /-- A record of a step on the way. -/
  | record (record : Record)
  | line (level : Level) (message : String)
  /-- The outcome of a command. -/
  | envelope (envelope : Envelope)
  /-- Help, or what is wrong with the command line. -/
  | notice (stream : Stream) (text : String)

namespace Piece

/-- Where a piece goes. -/
def stream : Piece → Stream
  | record _ => .errors
  | line level _ => level.stream
  | envelope _ => .output
  | notice stream _ => stream

/-- A piece as text. Control sequences in records stay on every device. -/
def text (terminal : Bool) : Piece → String
  | record noted => noted.line ++ "\n"
  | line level message => shownOn terminal (styled level message ++ "\n")
  | envelope outcome => shownOn terminal (outcome.render (.indented 2) ++ "\n")
  | notice _ text => shownOn terminal text

end Piece

/-- The outcome of a command line. -/
structure Outcome where
  /-- What is printed, in order. -/
  printed : List Piece
  status : Nat
  /-- What ended the command before its end, if anything did. -/
  breakdown : Option Breakdown

namespace Outcome

/-- The outcome after pieces that are printed before. -/
def after (pieces : List Piece) (outcome : Outcome) : Outcome :=
  { outcome with printed := pieces ++ outcome.printed }

def broken (breakdown : Breakdown) : Outcome :=
  ⟨[], 1, some breakdown⟩

/-- What goes to a stream. -/
def textOn (stream : Stream) (terminal : Bool) (outcome : Outcome) : String :=
  String.join
    ((outcome.printed.filter fun piece => piece.stream == stream).map (Piece.text terminal))

end Outcome

/-- The outcome of a command line that does not come to a check. -/
def Reply.outcome : Reply → Outcome
  | help part => ⟨[.notice .output part.help], 0, none⟩
  | version => ⟨[.notice .output versionText], 0, none⟩
  | nothingAsked => ⟨[.notice .errors Part.program.help], 2, none⟩
  | refusal part fault => ⟨[.notice .errors (fault.report part)], 2, none⟩
  | nullCharacter => .broken (.access .nullCharacter)

/-- Whether a report lets a check succeed: it has no errors and, in strict mode, no warnings. -/
def passes (report : Report) (strict : Bool) : Bool :=
  report.isValid && (!strict || report.warnings.isEmpty)

/-- The level of the line for a finding. -/
def lineLevel : Severity → Level
  | .error => .error
  | .warning => .warn
  | .info => .info

/-- The lines for a finding: its message, and its hint when hints are shown. -/
def findingLines (hints : Bool) (finding : Finding) : List Piece :=
  let hint := finding.hint.getD ""
  .line (lineLevel finding.severity) finding.message ::
    if hints && !hint.isEmpty then [.line .detail s!"  Hint: {hint}"] else []

/-- A number of things by name, unless there are none. -/
def countedPart (count : Nat) (name : String) : List String :=
  match count with
  | 0 => []
  | 1 => [s!"1 {name}"]
  | _ => [s!"{count} {name}s"]

/-- The counts of errors and warnings that are not zero. -/
def countParts (report : Report) : List String :=
  countedPart report.errors.length "error" ++ countedPart report.warnings.length "warning"

/-- The last line of a check. -/
def summaryLine (path : Path) (report : Report) (strict : Bool) : Piece :=
  let counts := ", ".intercalate (countParts report)
  if passes report strict then
    .line .success (path.text ++ " is valid" ++ if counts.isEmpty then "" else s!" ({counts})")
  else .line .error s!"Validation failed: {counts}"

def checkEnvelope (path : Path) (report : Report) (settings : Settings) : Envelope :=
  .ofReport "check" report settings.strict
    [("path", .text path.text), ("key_scope", .text settings.scope.name),
     ("strict", .bool settings.strict)]

/-- What a check prints about a report. -/
def reportPieces (request : CheckRequest) (settings : Settings) (report : Report) : List Piece :=
  match settings.format with
  | .json => [.envelope (checkEnvelope request.path report settings)]
  | .text =>
      report.findings.flatMap (findingLines request.hints) ++
        [summaryLine request.path report settings.strict]

/-- The records that a request wants to see. -/
def recordPieces (request : CheckRequest) (records : List Record) : List Piece :=
  (records.filter fun record => request.recordLevel.rank ≤ record.level.rank).map .record

/-- The paths of the files that a request may look at: the catalog, and settings files. -/
def CheckRequest.reads (request : CheckRequest) (directory : List String) : List Path :=
  let start := request.path.parent.resolve directory
  request.path :: (Settings.candidates start).map Path.ofLocation

/-- What a command line gives for the settings. -/
def CheckRequest.given (request : CheckRequest) : Settings.Given where
  scope := request.scope.elim .null fun scope => .text scope.name
  strict := request.strict.elim .null .bool
  format := request.format.elim .null fun format => .text format.name

/-- The outcome of a check whose settings fail. -/
def settingsFailed (request : CheckRequest) (failure : Failure) : Outcome :=
  let piece : Piece :=
    match request.format with
    | some .json => .envelope (.failed "check" [.ofFailure failure] [])
    | _ => .line .error failure.message
  ⟨[piece], 1, none⟩

variable [CallStack]

/-- Checks a catalog with settings. -/
def checkWith (world : World) (request : CheckRequest) (settings : Settings) : Outcome :=
  let records := Trace.ofFile world.files Rule.standard settings.scope request.path
  match checkFile world.files Rule.standard settings.scope world.time request.path with
  | .error fault => .broken (.access fault)
  | .ok report =>
      let status := if passes report settings.strict then 0 else 1
      ⟨recordPieces request records ++ reportPieces request settings report, status, none⟩

variable [Yaml.Library]

/-- Checks a catalog as a request says. The settings file is looked for from the directory of the
catalog on. -/
def check (world : World) (request : CheckRequest) : Outcome :=
  let (records, settings) :=
    Settings.resolve world.files world.environment (some request.path.parent) request.given
  Outcome.after (recordPieces request records) <|
    match settings with
    | .error (.failure failure) => settingsFailed request failure
    | .error breakdown => .broken breakdown
    | .ok settings => checkWith world request settings

/-- Runs a command line. -/
def run [Library] (world : World) (words : List String) : Outcome :=
  match Library.read world.files words with
  | .ok request => check world request
  | .error reply => reply.outcome

/-- The program runs on a stack of its own. -/
instance (priority := low) : CallStack := .standard

/-- The program loads settings files as they usually are. -/
instance (priority := low) : Yaml.Library := .usual

/-- The program reads its command lines itself. -/
instance (priority := low) : Library := .usual

end VersionCatalog.CommandLine
