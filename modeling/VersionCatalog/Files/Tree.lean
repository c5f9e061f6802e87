import VersionCatalog.Files.System

/-!
# Files and directories

A tree of files and directories, in which paths are followed name by name.
-/

namespace VersionCatalog

/-- A file or a directory. -/
inductive FileNode where
  | file (content : List UInt8)
  /-- A file that cannot be read, with the reason. -/
  | unreadable (reason : String)
  | directory (entries : List (String × FileNode))
  /-- A directory that may not be entered. -/
  | locked

/-- The most bytes that a name may have. -/
def nameLimit : Nat := 255

/-- The bytes that the text of a path must stay below. -/
def pathLimit : Nat := 4096

namespace FileNode

/-- A directory without entries. -/
def emptyDirectory : FileNode := directory []

/-- The entries of a directory after one is set, in place of that name or after the others. -/
def setEntry (name : String) (node : FileNode) : List (String × FileNode) → List (String × FileNode)
  | [] => [(name, node)]
  | (other, old) :: entries =>
      if other = name then (name, node) :: entries
      else (other, old) :: setEntry name node entries

/-- Follows names from a node whose parents are given, the nearest first. -/
def walk (parents : List FileNode) (node : FileNode) : List String → Except AccessFault FileNode
  | [] => .ok node
  | name :: names =>
      match node with
      | directory entries =>
          if name = ".." then
            match parents with
            | [] => walk [] node names
            | parent :: parents => walk parents parent names
          else if nameLimit < name.utf8ByteSize then .error .nameTooLong
          else
            match entries.lookup name with
            | some child => walk (node :: parents) child names
            | none => .error .missing
      | locked => .error .permissionDenied
      | _ => .error .notDirectory

/-- Only the text of a path can have a null character for a fault. -/
theorem walk_ne_nullCharacter (parents : List FileNode) (node : FileNode) (names : List String) :
    walk parents node names ≠ .error .nullCharacter := by
  induction names generalizing parents node with
  | nil => exact nofun
  | cons name names induction =>
      unfold walk
      split
      · split
        · split
          · exact induction _ _
          · exact induction _ _
        · split
          · exact nofun
          · split
            · exact induction _ _
            · exact nofun
      · exact nofun
      · exact nofun

/-- What a node is. -/
def kind : FileNode → FileKind
  | directory _ => .directory
  | locked => .directory
  | _ => .file

/-- Sets what stands at the end of a list of names, creating directories on the way. There is no
way through a file. -/
def place (tree : FileNode) (names : List String) (node : FileNode) : Option FileNode :=
  match names, tree with
  | [], _ => some node
  | name :: names, directory entries =>
      let old := (entries.lookup name).getD emptyDirectory
      (place old names node).map fun child => directory (setEntry name child entries)
  | _, _ => none

/-- Removes what stands at the end of a list of names, if there is anything. -/
def remove : List String → FileNode → Option FileNode
  | [], _ => none
  | [name], directory entries =>
      if (entries.lookup name).isSome then
        some (directory (entries.filter fun entry => entry.1 != name))
      else none
  | name :: names, directory entries => do
      let old ← entries.lookup name
      let child ← remove names old
      some (directory (setEntry name child entries))
  | _, _ => none

end FileNode

/-- A tree of files with a working directory in it. -/
structure Files where
  root : FileNode
  /-- The names from the root to the working directory. -/
  directory : List String

namespace Files

/-- A tree that holds nothing but its working directory. -/
def empty (directory : List String) : Files :=
  ⟨(FileNode.emptyDirectory.place directory .emptyDirectory).getD .emptyDirectory, directory⟩

/-- What a path leads to. -/
def find (files : Files) (path : Path) : Except AccessFault FileNode :=
  if path.text.toList.contains '\x00' then .error .nullCharacter
  else if pathLimit ≤ path.text.utf8ByteSize then .error .nameTooLong
  else files.root.walk [] (path.namesFrom files.directory)

/-- The content of a file. -/
def read (files : Files) (path : Path) : Except AccessFault (List UInt8) :=
  match files.find path with
  | .error fault => .error fault
  | .ok (.file content) => .ok content
  | .ok (.unreadable reason) => .error (.other reason)
  | .ok (.directory _) => .error .isDirectory
  | .ok .locked => .error .permissionDenied

theorem read_ne_nullCharacter (files : Files) (path : Path) (nullFree : '\x00' ∉ path.text.toList) :
    files.read path ≠ .error .nullCharacter := by
  have found : files.find path ≠ .error .nullCharacter := by
    rw [find, if_neg (by simpa using nullFree)]
    split
    · exact nofun
    · exact FileNode.walk_ne_nullCharacter _ _ _
  unfold read
  split
  · next fault stopped =>
      rintro ⟨⟩
      exact found stopped
  · exact nofun
  · exact nofun
  · exact nofun
  · exact nofun

/-- Whether a path as it was written leads to something that may not be read. What follows the name
of a file, such as a slash, is said of a directory. -/
def isBarred (files : Files) (written : String) : Bool :=
  let path := Path.ofText written
  match files.find path with
  | .ok .locked => !written.isEmpty
  | .ok (.unreadable reason) =>
      reason == AccessFault.permissionDenied.reason &&
        (path.names.getLast?.getD "").toList.isSuffixOf written.toList
  | _ => false

/-- A tree as a file system without links. -/
def system (files : Files) : FileSystem where
  resolve path :=
    if path.text.toList.contains '\x00' then .error .nullCharacter
    else .ok (path.resolve files.directory)
  look path := (files.find path).map FileNode.kind
  read := files.read
  isBarred := files.isBarred
  read_ne_nullCharacter := files.read_ne_nullCharacter

instance : Coe Files FileSystem := ⟨system⟩

/-- Sets what a path leads to, creating directories on the way. -/
def place? (files : Files) (path : Path) (node : FileNode) : Option Files :=
  (files.root.place (path.resolve files.directory) node).map fun root => { files with root }

/-- Whether a path leads to a directory. -/
def isDirectory (files : Files) (path : Path) : Bool :=
  match files.find path with
  | .ok node => node.kind == .directory
  | .error _ => false

/-- Creates a directory in one that exists. -/
def makeEntry (files : Files) (path : Path) : Except AccessFault Files :=
  match files.find path with
  | .ok _ => .error .occupied
  | .error .missing =>
      if files.isDirectory path.parent then
        match files.place? path .emptyDirectory with
        | some files => .ok files
        | none => .error .missing
      else .error .missing
  | .error fault => .error fault

/-- Creates a directory in one that exists, unless it exists itself. -/
def ensureEntry (files : Files) (path : Path) : Except AccessFault Files :=
  match files.makeEntry path with
  | .ok files => .ok files
  | .error fault => if files.isDirectory path then .ok files else .error fault

/-- Creates the directory at the end of names, the last of which comes first, together with the
directories on the way that do not exist. What was created before a fault stays. -/
def ensureDirectory (anchor : Anchor) (files : Files) :
    List String → Files × Option AccessFault
  | [] =>
      match files.ensureEntry ⟨anchor, []⟩ with
      | .ok files => (files, none)
      | .error fault => (files, some fault)
  | name :: names =>
      let path : Path := ⟨anchor, (name :: names).reverse⟩
      match files.ensureEntry path with
      | .ok files => (files, none)
      | .error .missing =>
          match ensureDirectory anchor files names with
          | (files, some fault) => (files, some fault)
          | (files, none) =>
              match files.ensureEntry path with
              | .ok files => (files, none)
              | .error fault => (files, some fault)
      | .error fault => (files, some fault)

/-- Creates a directory together with those on the way. -/
def makeDirectory (files : Files) (path : Path) : Files × Option AccessFault :=
  files.ensureDirectory path.anchor path.names.reverse

/-- Sets the content of a file in a directory that exists. -/
def setContent (files : Files) (path : Path) (content : List UInt8) :
    Files × Option AccessFault :=
  let written := (files.place? path (.file content)).getD files
  match files.find path with
  | .ok node => if node.kind = .directory then (files, some .isDirectory) else (written, none)
  | .error .missing => (written, none)
  | .error fault => (files, some fault)

/-- Writes a file, creating the directories on the way. -/
def write (files : Files) (path : Path) (content : List UInt8) : Files × Option AccessFault :=
  match files.makeDirectory path.parent with
  | (files, some fault) => (files, some fault)
  | (files, none) => files.setContent path content

/-- Removes a file or a directory with its content. Of a directory that is named by dots only the
content can be removed. -/
def delete (files : Files) (path : Path) : Files × Option AccessFault :=
  let location := path.resolve files.directory
  let emptied := (files.place? path .emptyDirectory).getD files
  match files.find path, path.names.getLast? with
  | .error fault, _ => (files, some fault)
  | .ok _, none => (emptied, some (.other "Invalid argument"))
  | .ok _, some name =>
      if name = ".." then (emptied, some .missing)
      else
        match files.root.remove location with
        | some root => ({ files with root }, none)
        | none => (files, some .missing)

end Files

end VersionCatalog
