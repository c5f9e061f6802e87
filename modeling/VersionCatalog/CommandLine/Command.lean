import VersionCatalog.CommandLine.Options
import VersionCatalog.Files.System
import VersionCatalog.Record
import VersionCatalog.Settings.Basic

/-!
# Commands

What a command line asks for. The options before the command belong to the program and those after
it to the command, of which there is one: to check a catalog. A question for help or for the version
is answered before the other words are looked at, provided that all options exist. A catalog that
may not be read is refused with the words that name it.
-/

namespace VersionCatalog.CommandLine

/-- A part of the program with options of its own. -/
inductive Part where
  | program
  /-- The command that checks a catalog. -/
  | check
deriving DecidableEq, Repr

namespace Part

/-- The words that lead to a part. -/
def name : Part → String
  | program => "catalint"
  | check => "catalint check"

/-- The words that a part takes. -/
def words : Part → String
  | program => "[OPTIONS] COMMAND [ARGS]..."
  | check => "[OPTIONS] [PATH]"

/-- How a part is used. -/
def usage (part : Part) : String :=
  s!"Usage: {part.name} {part.words}\n"

/-- What a part does and what its options mean. -/
def description : Part → String
  | program => "
  catalint - validate Gradle dependency version catalogs.

Options:
  --version             Show the version and exit.
  --format [text|json]  Output format (json for machine parsing, text for
                        humans).
  -v, --verbose         Increase log verbosity (-v info, -vv debug).
  --help                Show this message and exit.

Commands:
  check  Validate a version catalog.
"
  | check => "
  Validate a version catalog.

  PATH is the libs.versions.toml file (default: gradle/libs.versions.toml).
  Exits with 1 if the catalog has errors (or warnings, with --strict).

Options:
  --json                          Output results as JSON
  --strict / --no-strict          Treat warnings as failures for the exit code.
  --key-scope [namespace|document]
                                  Scope of version-format and duplicate-key
                                  checks.
  --hints / --no-hints            Show a fix hint under each finding.
  --help                          Show this message and exit.
"

def help (part : Part) : String :=
  part.usage ++ part.description

def options : Part → List OptionSpec
  | program =>
      [⟨"--version", none, false⟩, ⟨"--format", none, true⟩, ⟨"--verbose", some 'v', false⟩,
       ⟨"--help", none, false⟩]
  | check =>
      [⟨"--json", none, false⟩, ⟨"--strict", none, false⟩, ⟨"--no-strict", none, false⟩,
       ⟨"--key-scope", none, true⟩, ⟨"--hints", none, false⟩, ⟨"--no-hints", none, false⟩,
       ⟨"--help", none, false⟩]

/-- Whether the first argument ends the options. What follows the name of a command is left to the
command. -/
def argumentsEnd : Part → Bool
  | program => true
  | check => false

end Part

/-- The version of the program. -/
def versionText : String := "catalint, version 0.1.0\n"

def commandNames : List String := ["check"]

/-- The path of the catalog when none is given. -/
def defaultPath : String := "gradle/libs.versions.toml"

/-- A request to check a catalog. -/
structure CheckRequest where
  path : Path
  /-- The format of the outcome, if one is asked for. -/
  format : Option OutputFormat
  /-- Whether warnings make the check fail, if that is said. -/
  strict : Option Bool
  /-- The scope of the checks, if one is asked for. -/
  scope : Option KeyScope
  /-- Whether hints are shown. -/
  hints : Bool
  /-- The least level of the records that are shown. -/
  recordLevel : RecordLevel
deriving DecidableEq, Repr

/-- What a command line gets that does not come to a check. -/
inductive Reply where
  /-- The help for a part of the program. -/
  | help (part : Part)
  | version
  /-- The help for the program, since nothing is asked for. -/
  | nothingAsked
  /-- What is wrong with the words for a part of the program. -/
  | refusal (part : Part) (fault : UsageFault)
  /-- Nothing, since the path of the catalog has a null character. -/
  | nullCharacter
deriving DecidableEq, Repr

/-- What is said about a fault in the words for a part of the program. -/
def UsageFault.report (part : Part) (fault : UsageFault) : String :=
  let advice := s!"{part.usage}Try '{part.name} --help' for help.\n\n"
  (if fault.showsUsage then advice else "") ++ s!"Error: {fault.message}\n"

/-- Reads the words for a part of the program. A question for help or for the version comes to a
reply, the first one if there are several. -/
def readPart (part : Part) (words : List String) : Except Reply Parsed := do
  let parsed ← (parse part.options part.argumentsEnd words).mapError (Reply.refusal part)
  match parsed.first? ["--version", "--help"] with
  | none => return parsed
  | some question => throw (if question = "--help" then .help part else .version)

/-- The value of an option that is one of the named choices. -/
def choice? {α : Type} (part : Part) (parsed : Parsed) (option : String) (choices : List String)
    (ofName? : String → Option α) : Except Reply (Option α) :=
  match parsed.value? option with
  | none => .ok none
  | some value =>
      match ofName? value with
      | some choice => .ok (some choice)
      | none => .error (.refusal part (.invalidChoice option value choices))

/-- What is said before the name of the command, and the words from there on. -/
structure Preamble where
  /-- The format of the outcome, if one is asked for. -/
  format : Option OutputFormat
  /-- The least level of the records that are shown. -/
  recordLevel : RecordLevel
  /-- The words from the name of the command on. -/
  rest : List String

/-- Reads the options of the program. -/
def readPreamble (words : List String) : Except Reply Preamble := do
  let parsed ← readPart .program words
  let format ← choice? .program parsed "--format" OutputFormat.names OutputFormat.ofName?
  return ⟨format, .ofVerbosity (parsed.count "--verbose"), parsed.arguments⟩

/-- Reads the words after the name of the command that checks a catalog. -/
def readCheck (system : FileSystem) (preamble : Preamble) (words : List String) :
    Except Reply CheckRequest := do
  let parsed ← readPart .check words
  let scope ← choice? .check parsed "--key-scope" KeyScope.names KeyScope.ofName?
  let path := parsed.arguments.head?.getD defaultPath
  if path.toList.contains '\x00' then throw .nullCharacter
  if system.isBarred path then throw (.refusal .check (.unreadableArgument "[PATH]" path))
  let extra := parsed.arguments.drop 1
  if !extra.isEmpty then throw (.refusal .check (.extraArguments extra))
  return {
    path := .ofText path
    format := if parsed.count "--json" = 0 then preamble.format else some .json
    strict := parsed.switch? "--strict" "--no-strict"
    scope
    hints := (parsed.switch? "--hints" "--no-hints").getD true
    recordLevel := preamble.recordLevel }

/-- Reads a command line. A word that is no command may still be an option of the program, when two
hyphens stand before it. -/
def read (system : FileSystem) (words : List String) : Except Reply CheckRequest := do
  if words.isEmpty then throw .nothingAsked
  let preamble ← readPreamble words
  match preamble.rest with
  | [] => throw (.refusal .program .missingCommand)
  | "check" :: rest => readCheck system preamble rest
  | command :: rest =>
      let _ ← readPreamble (command :: rest)
      throw (.refusal .program (.unknownCommand command (similarWords commandNames command)))

/-- A library that reads command lines for the program. -/
class Library where
  /-- What the words of a command line ask for. -/
  read : FileSystem → List String → Except Reply CheckRequest

namespace Library

/-- The library that reads command lines as above. -/
scoped instance usual : Library where
  read := CommandLine.read

end Library

end VersionCatalog.CommandLine
