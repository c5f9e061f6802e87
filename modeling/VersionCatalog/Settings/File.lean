import VersionCatalog.Files.System
import VersionCatalog.Record
import VersionCatalog.Settings.Basic
import VersionCatalog.Text.Utf8
import VersionCatalog.Yaml.Library

/-!
# The settings file

The settings file is looked for in a directory and in those above it, and the nearest one is read.
Its keys that are no settings are passed over with a warning.
-/

namespace VersionCatalog.Settings

/-- The name of a settings file. -/
def fileName : String := ".catalint.yaml"

/-- How many directories are looked at. -/
def searchDepth : Nat := 20

/-- A directory with those above it, the nearest first. -/
def ancestors (location : List String) : List (List String) :=
  (List.range (location.length + 1)).map fun up => location.take (location.length - up)

/-- Whether a file, and no directory, stands at a place. A place without anything is no reason to
break off. -/
def isFile (system : FileSystem) (location : List String) : Except AccessFault Bool :=
  (system.kind? (.ofLocation location)).map (· == some .file)

/-- The places where a settings file is looked for from a directory on, the nearest first. -/
def candidates (location : List String) : List (List String) :=
  ((ancestors location).take searchDepth).map (· ++ [fileName])

/-- The first of some places where a file stands. -/
def firstFile (system : FileSystem) : List (List String) → Except AccessFault (Option (List String))
  | [] => .ok none
  | place :: places => do
      if ← isFile system place then return some place else firstFile system places

/-- The place of the nearest settings file at or above a path. -/
def find (system : FileSystem) (start : Path) : Except AccessFault (Option (List String)) := do
  firstFile system (candidates (← system.resolve start))

/-- The text with every line's end written as a line feed. -/
def joinLineEnds : List Char → List Char
  | '\r' :: '\n' :: rest => '\n' :: joinLineEnds rest
  | '\r' :: rest => '\n' :: joinLineEnds rest
  | char :: rest => char :: joinLineEnds rest
  | [] => []

section

variable [Yaml.Library]

/-- Reads the text of a settings file as a mapping; a file without data is an empty one. -/
def readText (path : String) (text : List Char) : Except Breakdown (List (Datum × Datum)) :=
  if Text.isBlankText text then .ok []
  else
    match Yaml.Library.load text with
    | .ok .null => .ok []
    | .ok (.mapping pairs) => .ok pairs
    | .ok _ => .error (.failure (.unreadableSettings path "top level must be a mapping"))
    | .error (.malformed diagnosis) => .error (.failure (.unreadableSettings path diagnosis))
    | .error (.refused refusal) => .error (.refused refusal)

/-- Reads a settings file; one that does not exist has no settings. -/
def load (system : FileSystem) (path : Path) : Except Breakdown (List (Datum × Datum)) :=
  match system.kind? path with
  | .error fault => .error (.access fault)
  | .ok none => .ok []
  | .ok (some _) =>
      match system.read path with
      | .error fault => .error (.access fault)
      | .ok content =>
          match Text.Utf8.decode content with
          | .error _ => .error .undecodable
          | .ok text => readText path.text (joinLineEnds text)

end

/-- The records on keys that are passed over. -/
def unknownRecords (path : String) (unknown : List String) : List Record :=
  if unknown.isEmpty then []
  else
    let names := ", ".intercalate unknown
    [⟨.warning, .settings, s!"Ignoring unknown settings in {path}: {names}"⟩]

/-- The settings of a command, with the records that are made on the way. Without a start, no
settings file is looked for. -/
def resolve [CallStack] [Yaml.Library] (system : FileSystem) (environment : Environment)
    (start : Option Path) (given : Given) : List Record × Except Breakdown Settings :=
  match start.elim (.ok none) (find system) with
  | .error fault => ([], .error (.access fault))
  | .ok none => ([], combine given environment [] none)
  | .ok (some location) =>
      let path := Path.ofLocation location
      match load system path with
      | .error breakdown => ([], .error breakdown)
      | .ok file =>
          let loaded : Record := ⟨.debug, .settings, s!"Loaded config from {path.text}"⟩
          match unknownKeys? file with
          | none => ([loaded], .error .unnamedKeys)
          | some unknown =>
              (loaded :: unknownRecords path.text unknown,
                combine given environment file (some path.text))

end VersionCatalog.Settings
