import VersionCatalog.Files.Path

/-!
# File systems

A program learns of files what the system says: where a path leads to, what stands there, what it
holds, and whether it may be read. Links, permissions and limits are the system's own affair.
-/

namespace VersionCatalog

/-- Why a file cannot be read, created or removed. -/
inductive AccessFault where
  /-- There is nothing of that name. -/
  | missing
  | isDirectory
  /-- A name leads on from something that is no directory. -/
  | notDirectory
  /-- Something stands where something else was to be created. -/
  | occupied
  /-- A name or the whole path is too long. -/
  | nameTooLong
  /-- Links lead back to each other. -/
  | linkLoop
  | permissionDenied
  /-- A null character stands in the path. -/
  | nullCharacter
  /-- Another reason. -/
  | other (reason : String)
deriving DecidableEq, Repr

namespace AccessFault

/-- The words for why a file cannot be read, created or removed. -/
def reason : AccessFault → String
  | missing => "No such file or directory"
  | isDirectory => "Is a directory"
  | notDirectory => "Not a directory"
  | occupied => "File exists"
  | nameTooLong => "File name too long"
  | linkLoop => "Too many levels of symbolic links"
  | permissionDenied => "Permission denied"
  | nullCharacter => "embedded null byte"
  | other reason => reason

/-- Whether a fault is taken to say that nothing stands at the end of a path. -/
def isAbsence : AccessFault → Bool
  | missing => true
  | notDirectory => true
  | linkLoop => true
  | nullCharacter => true
  | _ => false

end AccessFault

/-- What stands at the end of a path. -/
inductive FileKind where
  | file
  | directory
  /-- Neither, such as a device. -/
  | other
deriving DecidableEq, Repr

/-- What a system says about files. -/
structure FileSystem where
  /-- The place that a path leads to, whether or not anything stands there. -/
  resolve : Path → Except AccessFault (List String)
  /-- What stands at the end of a path. -/
  look : Path → Except AccessFault FileKind
  /-- The content of a file. -/
  read : Path → Except AccessFault (List UInt8)
  /-- Whether a path as it was written leads to something that may not be read. -/
  isBarred : String → Bool
  /-- A null character is the fault of no path without one. -/
  read_ne_nullCharacter (path : Path) (nullFree : '\x00' ∉ path.text.toList) :
    read path ≠ .error .nullCharacter

namespace FileSystem

/-- What stands at the end of a path, if anything does. -/
def kind? (system : FileSystem) (path : Path) : Except AccessFault (Option FileKind) :=
  match system.look path with
  | .ok kind => .ok (some kind)
  | .error fault => if fault.isAbsence then .ok none else .error fault

end FileSystem

end VersionCatalog
