import VersionCatalog.Text.Fields

/-!
# Paths

A path is a list of names, counted from the working directory or, after a slash, from the root.
Empty names and single dots do not count; double dots are kept, since they lead to the parent of
what stands before them only when that is a directory.
-/

namespace VersionCatalog

/-- Where a path begins. -/
inductive Anchor where
  /-- The working directory. -/
  | here
  | root
  /-- The root, written with two slashes. -/
  | doubleRoot
deriving DecidableEq, Repr

/-- A path. -/
structure Path where
  /-- Where it begins. -/
  anchor : Anchor
  /-- The names in order. -/
  names : List String
deriving DecidableEq, Repr

namespace Path

/-- The beginning of a path as written: two slashes, but not three, are kept apart from one. -/
def anchorOf : List Char → Anchor
  | '/' :: '/' :: '/' :: _ => .root
  | '/' :: '/' :: _ => .doubleRoot
  | '/' :: _ => .root
  | _ => .here

/-- The path that a text writes. -/
def ofText (text : String) : Path :=
  let names := (Text.fields '/' text.toList).filter fun name => !name.isEmpty && name != ['.']
  ⟨anchorOf text.toList, names.map String.ofList⟩

/-- A path as text; the working directory itself is a dot. -/
def text (path : Path) : String :=
  let names := "/".intercalate path.names
  match path.anchor with
  | .here => if path.names.isEmpty then "." else names
  | .root => "/" ++ names
  | .doubleRoot => "//" ++ names

/-- The path without its last name. -/
def parent (path : Path) : Path :=
  { path with names := path.names.dropLast }

/-- The path of an entry of a directory. -/
def child (path : Path) (name : String) : Path :=
  { path with names := path.names ++ [name] }

/-- The directories from the root down to a working directory, and the names of a path after them
when it begins there. -/
def namesFrom (directory : List String) (path : Path) : List String :=
  match path.anchor with
  | .here => directory ++ path.names
  | _ => path.names

/-- Leaves a directory for its parent at double dots, and enters a name otherwise. -/
def stepLexically (location : List String) (name : String) : List String :=
  if name = ".." then location.dropLast else location ++ [name]

/-- The place that a path leads to from a working directory, whether or not it exists. -/
def resolve (directory : List String) (path : Path) : List String :=
  (path.namesFrom directory).foldl stepLexically []

/-- The place at the end of a list of names below the root. -/
def ofLocation (location : List String) : Path := ⟨.root, location⟩

end Path

end VersionCatalog
