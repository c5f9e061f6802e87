import VersionCatalog.Catalog.Basic
import VersionCatalog.Document.Basic
import VersionCatalog.Text.Fields

/-!
# The catalog of a document

Every entry of a known section is read as a declaration. The first binding of a key is kept; a later
one is recorded as a repeat, and so is every repeated field of a table that is kept.
-/

namespace VersionCatalog

open Document

/-- An array as one text, with its items between brackets. -/
def bracketed (items : List String) : String :=
  "[" ++ ", ".intercalate items ++ "]"

namespace Document

/-- A field's value as one text. -/
def Leaf.asText : Leaf → String
  | .text content => content
  | .array items => bracketed items

/-- The value of a field as one text. -/
def Table.asText? (table : Table) (name : String) : Option String :=
  (table.get? name).map Leaf.asText

/-- The fields that a version in the form of a table may be given by, the preferred one first. -/
def richVersionFields : List String := ["require", "strictly", "prefer"]

/-- The version in the fields of a rich version, whose names begin with `path`. -/
def Table.richVersion? (table : Table) (path : String) : Option String :=
  richVersionFields.findSome? fun name => table.text? (path ++ name)

/-- The version that the table of a library or a plugin gives itself. An empty text does not count
as a version when a rich version is given. -/
def Table.inlineVersion? (table : Table) : Option String :=
  match table.asText? "version" with
  | some version => if version.isEmpty then table.richVersion? "version." else some version
  | none => table.richVersion? "version."

end Document

/-- The text of a version that is declared by a value. -/
def versionOfValue : Value → String
  | .text content => content
  | .array items => bracketed items
  | .table table => (table.richVersion? "").getD ""

/-- The library that is declared by a value. A text with two colons gives the version too. -/
def Library.ofValue : Value → Library
  | .text content =>
      match Text.fields ':' content.toList with
      | [group, artifact, version] =>
          { bare with
            module := some (String.ofList (group ++ ':' :: artifact))
            inlineVersion := some (String.ofList version) }
      | _ => { bare with module := some content }
  | .array _ => bare
  | .table table =>
      { module := table.asText? "module"
        group := table.asText? "group"
        name := table.asText? "name"
        versionRef := table.asText? "version.ref"
        inlineVersion := table.inlineVersion? }

/-- The plugin that is declared by a value. In a text, the version follows the first colon. -/
def Plugin.ofValue : Value → Plugin
  | .text content =>
      let id := content.toList.takeWhile (· != ':')
      match content.toList.drop id.length with
      | _ :: version => ⟨some (String.ofList id), none, some (String.ofList version)⟩
      | [] => ⟨some (String.ofList id), none, none⟩
  | .array _ => ⟨none, none, none⟩
  | .table table => ⟨table.asText? "id", table.asText? "version.ref", table.inlineVersion?⟩

/-- The members of the bundle that is declared by a value. -/
def bundleOfValue : Value → List String
  | .text content => [content]
  | .array items => items
  | .table _ => []

namespace Catalog

/-- Binds the key of an entry in a section, if it is not bound there yet. -/
def bind? (catalog : Catalog) (kind : Section) (key : String) (value : Value) : Option Catalog :=
  match kind with
  | .versions =>
      (catalog.versions.bind? key (versionOfValue value)).map ({ catalog with versions := · })
  | .libraries =>
      (catalog.libraries.bind? key (Library.ofValue value)).map ({ catalog with libraries := · })
  | .plugins =>
      (catalog.plugins.bind? key (Plugin.ofValue value)).map ({ catalog with plugins := · })
  | .bundles =>
      (catalog.bundles.bind? key (bundleOfValue value)).map ({ catalog with bundles := · })

/-- Records repeats after those recorded before. -/
def addRepeats (catalog : Catalog) (repeats : List Repeat) : Catalog :=
  { catalog with repeats := catalog.repeats ++ repeats }

/-- The repeats that the fields of an entry's table make. -/
def fieldRepeats (kind : Section) (entry : Entry) : List Repeat :=
  match entry.value with
  | .table table =>
      table.repeatedNames.map fun field => ⟨kind, entry.key ++ "." ++ field, entry.line⟩
  | _ => []

/-- Takes an entry into the catalog. Entries of unknown sections are passed over. -/
def addEntry (catalog : Catalog) (entry : Entry) : Catalog :=
  match Section.ofName? entry.sectionName with
  | none => catalog
  | some kind =>
      match catalog.bind? kind entry.key entry.value with
      | some bound => bound.addRepeats (fieldRepeats kind entry)
      | none => catalog.addRepeats [⟨kind, entry.key, entry.line⟩]

/-- The catalog that a document declares. -/
def ofDocument (document : Document) : Catalog :=
  document.entries.foldl addEntry { empty with sections := document.sections }

end Catalog

end VersionCatalog
