import VersionCatalog.Catalog.Aliases

/-!
# Version catalogs

A catalog declares versions, libraries, plugins and bundles, each under an alias. A library or a
plugin gives its version itself or refers to a declared one.
-/

namespace VersionCatalog

/-- The sections that a catalog is made of. -/
inductive Section where
  | versions
  | libraries
  | plugins
  /-- Groups of libraries by alias. -/
  | bundles
deriving DecidableEq, Repr

namespace Section

/-- The name in a section's header. -/
def name : Section → String
  | versions => "versions"
  | libraries => "libraries"
  | plugins => "plugins"
  | bundles => "bundles"

def all : List Section := [versions, libraries, plugins, bundles]

def ofName? (name : String) : Option Section :=
  all.find? fun kind => kind.name == name

/-- The sections that every catalog has to declare. -/
def required : List Section := [versions, libraries]

end Section

/-- A declared library. -/
structure Library where
  /-- The group and the artifact with a colon between, if given as one text. -/
  module : Option String
  /-- The group, if given. -/
  group : Option String
  /-- The artifact, if given. -/
  name : Option String
  versionRef : Option String
  /-- The version that the library gives itself. -/
  inlineVersion : Option String
deriving DecidableEq, Repr

namespace Library

/-- A library of which nothing is declared but its alias. -/
def bare : Library := ⟨none, none, none, none, none⟩

/-- The group and the artifact with a colon between, in whichever form they are given. -/
def coordinate? (library : Library) : Option String :=
  match library.module, library.group, library.name with
  | some module, _, _ => some module
  | none, some group, some name => some s!"{group}:{name}"
  | none, _, _ => none

end Library

/-- A declared plugin. -/
structure Plugin where
  /-- The identifier, if given. -/
  id : Option String
  versionRef : Option String
  /-- The version that the plugin gives itself. -/
  inlineVersion : Option String
deriving DecidableEq, Repr

/-- A key that is bound again, or a field that is repeated in one table. -/
structure Repeat where
  /-- The section of the key. -/
  kind : Section
  /-- The repeated key, or the key and the repeated field with a dot between. -/
  key : String
  line : Nat
deriving DecidableEq, Repr

/-- A version catalog. -/
structure Catalog where
  /-- The texts of the declared versions. -/
  versions : Aliases String
  libraries : Aliases Library
  plugins : Aliases Plugin
  /-- The aliases of the libraries in the declared bundles. -/
  bundles : Aliases (List String)
  /-- What is declared again, in the order of the document. -/
  repeats : List Repeat
  /-- The names of all section headers in order. -/
  sections : List String

namespace Catalog

/-- A catalog that declares nothing. -/
def empty : Catalog :=
  ⟨.empty, .empty, .empty, .empty, [], []⟩

/-- The aliases that a section binds, in order. -/
def keys (catalog : Catalog) : Section → List String
  | .versions => catalog.versions.keys
  | .libraries => catalog.libraries.keys
  | .plugins => catalog.plugins.keys
  | .bundles => catalog.bundles.keys

/-- The references to versions: the alias of the owner with the alias of the version, libraries
before plugins. -/
def versionReferences (catalog : Catalog) : List (String × String) :=
  (catalog.libraries.toList.filterMap fun (key, library) => library.versionRef.map (key, ·)) ++
    catalog.plugins.toList.filterMap fun (key, plugin) => plugin.versionRef.map (key, ·)

/-- The version that a reference or, without one, a version given in place amounts to. -/
def resolve? (catalog : Catalog) (reference inlineVersion : Option String) : Option String :=
  match reference with
  | some key => catalog.versions.get? key
  | none => inlineVersion

def libraryVersion? (catalog : Catalog) (library : Library) : Option String :=
  catalog.resolve? library.versionRef library.inlineVersion

def pluginVersion? (catalog : Catalog) (plugin : Plugin) : Option String :=
  catalog.resolve? plugin.versionRef plugin.inlineVersion

end Catalog

end VersionCatalog
