import Std.Time.DateTime.Timestamp
import VersionCatalog.CommandLine.Run

/-!
# The program

Takes in the files, the variables and the time that a command line depends on, runs it on them, and
prints its outcome.
-/

namespace VersionCatalog.Program

open Console

/-- What stands where a file was to be read, if anything does. A directory is known by the fault of
reading it; a place behind something that is no directory is empty unless it is the catalog. -/
def nodeOf (isCatalog : Bool) : Except IO.Error ByteArray → Option FileNode
  | .ok content => some (.file content.toList)
  | .error (.noFileOrDirectory ..) => none
  | .error (.inappropriateType _ 21 _) => some .emptyDirectory
  | .error (.inappropriateType ..) =>
      if isCatalog then some (.unreadable AccessFault.notDirectory.reason) else none
  | .error (.permissionDenied ..) => some (.unreadable AccessFault.permissionDenied.reason)
  | .error fault => some (.unreadable fault.toString)

/-- The tree with a node at the end of a path, and directories wherever the path leads through. -/
def placed (files : Files) (path : Path) (node : FileNode) : Files :=
  let passed := (List.range path.names.length).map fun length =>
    { path with names := path.names.take length }
  let opened := passed.foldl (fun files path =>
    match files.find path with
    | .ok _ => files
    | .error _ => (files.place? path .emptyDirectory).getD files) files
  (opened.place? path node).getD opened

/-- The files that a command line may look at. -/
def readFiles (words : List String) : IO Files := do
  let directory := (Path.ofText (← IO.currentDir).toString).names
  let mut files := Files.empty directory
  match CommandLine.read files words with
  | .error _ => return files
  | .ok request =>
      for path in request.reads directory do
        let content ← (IO.FS.readBinFile path.text).toBaseIO
        match nodeOf (path == request.path) content with
        | some node => files := placed files path node
        | none => pure ()
      return files

/-- The variables of the settings that are set. -/
def readEnvironment : IO Environment := do
  let mut environment : Environment := []
  for (key, _) in Settings.defaults do
    let name := Environment.variableOf key
    match ← IO.getEnv name with
    | some text => environment := environment.set name text
    | none => pure ()
  return environment

/-- The present time. -/
def readTime : IO Timestamp := do
  let now ← Std.Time.Timestamp.now
  return .ofInstant (now.toNanosecondsSinceUnixEpoch.val.toNat / 1000)

def print (stream : Stream) (text : String) : IO Unit := do
  let handle ← match stream with
    | .output => IO.getStdout
    | .errors => IO.getStderr
  handle.putStr text
  handle.flush

def isTerminal (stream : Stream) : IO Bool :=
  match stream with
  | .output => do (← IO.getStdout).isTty
  | .errors => do (← IO.getStderr).isTty

def printOutcome (outcome : CommandLine.Outcome) : IO Unit := do
  for piece in outcome.printed do
    print piece.stream (piece.text (← isTerminal piece.stream))
  match outcome.breakdown with
  | some breakdown => print .errors (breakdown.message ++ "\n")
  | none => pure ()

end VersionCatalog.Program

/-- Runs the program. -/
def main (words : List String) : IO UInt32 := do
  let world : VersionCatalog.CommandLine.World :=
    { files := ← VersionCatalog.Program.readFiles words
      environment := ← VersionCatalog.Program.readEnvironment
      time := ← VersionCatalog.Program.readTime }
  let outcome := VersionCatalog.CommandLine.run world words
  VersionCatalog.Program.printOutcome outcome
  return UInt32.ofNat outcome.status
