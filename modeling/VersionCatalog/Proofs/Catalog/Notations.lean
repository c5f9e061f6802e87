import VersionCatalog.Proofs.Catalog.Contents
import VersionCatalog.Proofs.Document.SpelledEntries

/-!
# Notations of libraries and plugins

A library is declared by one text, by a module, or by a group and a name; a plugin by one text or by
an identifier. Outside of the text a version is given in place, as a rich version, or by a reference
to a declared version, and each of these with a nested table or with a dotted key. Whichever
notation an entry takes, and however it is laid out and spelled, the catalog has the same coordinate
or identifier for it, and the same version.
-/

namespace VersionCatalog

open Document

/-- The first entry of a key among the versions of a document declares this version. -/
def Document.DeclaresVersion (document : Document) (key version : String) : Prop :=
  ∃ entry, document.entries.find? (fun entry =>
      entry.sectionName = Section.versions.name && entry.key = key) = some entry ∧
    versionOfValue entry.value = version

/-- The fields that give a version in the table of a library or a plugin. -/
inductive VersionFields (document : Document) (version : String) : List (String × Node) → Prop where
  | plain : VersionFields document version [("version", .text version)]
  | nestedRich {field : String} (rich : field ∈ richVersionFields) :
      VersionFields document version [("version", .table [(field, .text version)])]
  | dottedRich {field : String} (rich : field ∈ richVersionFields) :
      VersionFields document version [("version." ++ field, .text version)]
  | nestedReference {key : String} (declared : document.DeclaresVersion key version) :
      VersionFields document version [("version", .table [("ref", .text key)])]
  | dottedReference {key : String} (declared : document.DeclaresVersion key version) :
      VersionFields document version [("version.ref", .text key)]

/-- The ways to write a library. -/
inductive LibraryNotation (document : Document) (group artifact version : String) :
    Node → Prop where
  | text : LibraryNotation document group artifact version
      (.text (group ++ ":" ++ artifact ++ ":" ++ version))
  | module {fields : List (String × Node)} (versioned : VersionFields document version fields) :
      LibraryNotation document group artifact version
        (.table (("module", .text (group ++ ":" ++ artifact)) :: fields))
  | parts {fields : List (String × Node)} (versioned : VersionFields document version fields) :
      LibraryNotation document group artifact version
        (.table (("group", .text group) :: ("name", .text artifact) :: fields))

/-- The ways to write a plugin. -/
inductive PluginNotation (document : Document) (id version : String) : Node → Prop where
  | text : PluginNotation document id version (.text (id ++ ":" ++ version))
  | table {fields : List (String × Node)} (versioned : VersionFields document version fields) :
      PluginNotation document id version (.table (("id", .text id) :: fields))

/-- A text declares a library under an alias, which has this coordinate and this version. -/
def DeclaresLibrary [CallStack] (text key coordinate version : String) : Prop :=
  ∃ document library, ofText text = .ok document ∧
    (Catalog.ofDocument document).libraries.get? key = some library ∧
    library.coordinate? = some coordinate ∧
    (Catalog.ofDocument document).libraryVersion? library = some version

/-- A text declares a plugin under an alias, which has this identifier and this version. -/
def DeclaresPlugin [CallStack] (text key id version : String) : Prop :=
  ∃ document plugin, ofText text = .ok document ∧
    (Catalog.ofDocument document).plugins.get? key = some plugin ∧
    plugin.id = some id ∧
    (Catalog.ofDocument document).pluginVersion? plugin = some version

/-- No entry before has the same key in the same section. -/
def Document.PlacedEntry.ComesFirst [CallStack] {sectionName : String}
    (placed : PlacedEntry sectionName) : Prop :=
  ∀ other ∈ placed.front.entries, other.sectionName = sectionName →
    other.key ≠ placed.entry.target.key.name

instance [CallStack] {sectionName : String} (placed : PlacedEntry sectionName) :
    Decidable placed.ComesFirst :=
  inferInstanceAs (Decidable (∀ other ∈ placed.front.entries, other.sectionName = sectionName →
    other.key ≠ placed.entry.target.key.name))

/-! ## Look-ups -/

/-- The alias of an entry is bound to what the entry declares, if the entry comes first. -/
theorem Catalog.get?_bindings_placed [CallStack] {kind : Section} (placed : PlacedEntry kind.name)
    (first : placed.ComesFirst) :
    ((ofDocument placed.document).bindings kind).get? placed.entry.target.key.name =
      some (kind.item placed.entry.value.node.flatten) := by
  have before : placed.front.entries.find? (fun other =>
      other.sectionName = kind.name && other.key = placed.entry.target.key.name) = none := by
    rw [List.find?_eq_none]
    intro other member
    simpa using first other member
  rw [(holds_entries placed.document).bound, PlacedEntry.document, List.find?_append, before,
    Option.none_or, List.find?_cons_of_pos (by simp [PlacedEntry.declared])]
  rfl

theorem Document.DeclaresVersion.get?_versions {document : Document} {key version : String}
    (declared : document.DeclaresVersion key version) :
    (Catalog.ofDocument document).versions.get? key = some version := by
  obtain ⟨entry, found, rfl⟩ := declared
  have bound := (Catalog.holds_entries document).bound .versions key
  rw [found] at bound
  exact bound

/-! ## Fields of a version -/

/-- The names of the fields that a version is looked for in. -/
def versionFieldNames : List String :=
  "version" :: "version.ref" :: richVersionFields.map ("version." ++ ·)

namespace Document.Table

variable {table : Table} {name other : String} {leaf : Leaf}

theorem asText?_cons_of_ne (apart : other ≠ name) :
    asText? ((name, leaf) :: table) other = table.asText? other := by
  rw [asText?, get?, List.lookup_cons, beq_false_of_ne apart]
  rfl

theorem text?_cons_of_ne (apart : other ≠ name) :
    text? ((name, leaf) :: table) other = table.text? other := by
  rw [text?, get?, List.lookup_cons, beq_false_of_ne apart]
  rfl

/-- A field of another name does not count for the version. -/
theorem inlineVersion?_cons (apart : name ∉ versionFieldNames) :
    inlineVersion? ((name, leaf) :: table) = table.inlineVersion? := by
  simp only [versionFieldNames, richVersionFields, List.map_cons, List.map_nil, List.mem_cons,
    List.not_mem_nil, or_false, not_or] at apart
  obtain ⟨plain, _, require, strictly, prefer⟩ := apart
  simp only [inlineVersion?, richVersion?, richVersionFields, List.findSome?,
    asText?_cons_of_ne (Ne.symm plain), text?_cons_of_ne (Ne.symm require),
    text?_cons_of_ne (Ne.symm strictly), text?_cons_of_ne (Ne.symm prefer)]

end Document.Table

/-- The fields of a version have no other names. -/
theorem VersionFields.asText?_eq_none {document : Document} {version name : String}
    {fields : List (String × Node)} (versioned : VersionFields document version fields)
    (apart : name ∉ versionFieldNames) : (Node.flattenFields fields).asText? name = none := by
  have single : ∃ known leaf, known ∈ versionFieldNames ∧
      Node.flattenFields fields = [(known, leaf)] := by
    cases versioned with
    | plain => exact ⟨_, _, by decide, rfl⟩
    | nestedRich rich =>
        exact ⟨_, _, .tail _ (.tail _ (List.mem_map_of_mem rich)), rfl⟩
    | dottedRich rich =>
        exact ⟨_, _, .tail _ (.tail _ (List.mem_map_of_mem rich)), rfl⟩
    | nestedReference => exact ⟨_, _, .tail _ (.head _), rfl⟩
    | dottedReference => exact ⟨_, _, .tail _ (.head _), rfl⟩
  obtain ⟨known, leaf, member, flat⟩ := single
  have differs : name ≠ known := by
    rintro rfl
    exact apart member
  rw [flat, Table.asText?_cons_of_ne differs]
  rfl

/-- The fields of a version give it back. -/
theorem VersionFields.resolve?_eq {document : Document} {version : String}
    {fields : List (String × Node)} (versioned : VersionFields document version fields)
    (written : version ≠ "") :
    (Catalog.ofDocument document).resolve? ((Node.flattenFields fields).asText? "version.ref")
      (Node.flattenFields fields).inlineVersion? = some version := by
  have rich : ∀ field ∈ richVersionFields, ∀ name, name = "version." ++ field →
      (Catalog.ofDocument document).resolve? (Table.asText? [(name, .text version)] "version.ref")
        (Table.inlineVersion? [(name, .text version)]) = some version := by
    rintro field member name rfl
    simp only [richVersionFields, List.mem_cons, List.not_mem_nil, or_false] at member
    rcases member with rfl | rfl | rfl
    · rfl
    · rfl
    · rfl
  cases versioned with
  | plain =>
      -- An empty text would give way to a rich version.
      have inPlace : Table.inlineVersion? [("version", .text version)] =
          if version.isEmpty then Table.richVersion? [("version", .text version)] "version."
          else some version := rfl
      rw [if_neg (by simpa using written)] at inPlace
      exact inPlace
  | nestedRich member => exact rich _ member ("version" ++ "." ++ _) rfl
  | dottedRich member => exact rich _ member _ rfl
  | nestedReference declared => exact declared.get?_versions
  | dottedReference declared => exact declared.get?_versions

/-! ## Libraries and plugins -/

/-- A text with two colons has three fields. -/
theorem fields_of_colons {group artifact version : String} (ungrouped : ':' ∉ group.toList)
    (unnamed : ':' ∉ artifact.toList) (unversioned : ':' ∉ version.toList) :
    Text.fields ':' (group ++ ":" ++ artifact ++ ":" ++ version).toList =
      [group.toList, artifact.toList, version.toList] := by
  have joined : (group ++ ":" ++ artifact ++ ":" ++ version).toList =
      [':'].intercalate [group.toList, artifact.toList, version.toList] := by
    simp [List.intercalate_cons_cons]
  rw [joined, Text.fields_intercalate (List.cons_ne_nil _ _)]
  simpa using ⟨ungrouped, unnamed, unversioned⟩

/-- A version takes one table at most. -/
theorem VersionFields.nestingIn_le {document : Document} {version : String}
    {fields : List (String × Node)} (versioned : VersionFields document version fields) :
    Node.nestingIn fields ≤ 1 := by
  cases versioned <;> simp [Node.nestingIn, Node.nesting]

/-- A library takes two tables inside each other at most. -/
theorem LibraryNotation.nesting_le {document : Document} {group artifact version : String}
    {node : Node} (written : LibraryNotation document group artifact version node) :
    node.nesting ≤ 2 := by
  cases written with
  | text => exact Nat.zero_le 2
  | module versioned => simpa [Node.nesting, Node.nestingIn] using versioned.nestingIn_le
  | parts versioned => simpa [Node.nesting, Node.nestingIn] using versioned.nestingIn_le

theorem PluginNotation.nesting_le {document : Document} {id version : String} {node : Node}
    (written : PluginNotation document id version node) : node.nesting ≤ 2 := by
  cases written with
  | text => exact Nat.zero_le 2
  | table versioned => simpa [Node.nesting, Node.nestingIn] using versioned.nestingIn_le

/-- A library means the same in every notation. -/
theorem LibraryNotation.ofValue_flatten {document : Document} {group artifact version : String}
    {node : Node} (written : LibraryNotation document group artifact version node)
    (ungrouped : ':' ∉ group.toList) (unnamed : ':' ∉ artifact.toList)
    (unversioned : ':' ∉ version.toList) (some_version : version ≠ "") :
    (Library.ofValue node.flatten).coordinate? = some (group ++ ":" ++ artifact) ∧
      (Catalog.ofDocument document).libraryVersion? (Library.ofValue node.flatten) =
        some version := by
  cases written with
  | text =>
      have parts := fields_of_colons ungrouped unnamed unversioned
      simp only [Node.flatten, Library.ofValue, parts]
      constructor
      · rw [Library.coordinate?, Option.some_inj, ← String.toList_inj]
        simp
      · rw [Catalog.libraryVersion?, Library.bare, Catalog.resolve?, String.ofList_toList]
  | module versioned =>
      have resolved := versioned.resolve?_eq some_version
      refine ⟨rfl, ?_⟩
      rw [← resolved, Catalog.libraryVersion?]
      refine congrArg₂ _ ?_ ?_
      · exact Table.asText?_cons_of_ne (by decide)
      · exact Table.inlineVersion?_cons (by decide)
  | @parts fields versioned =>
      have resolved := versioned.resolve?_eq some_version
      -- The group and the name count only where no field gives the module.
      have unmoduled : (Node.flattenFields fields).asText? "module" = none :=
        versioned.asText?_eq_none (by decide)
      have beside : ∀ {name : String}, name ≠ "group" → name ≠ "name" →
          Table.asText? (("group", .text group) :: ("name", .text artifact) ::
            Node.flattenFields fields) name = (Node.flattenFields fields).asText? name := by
        intro name notGroup notName
        rw [Table.asText?_cons_of_ne notGroup, Table.asText?_cons_of_ne notName]
      constructor
      · have module := (beside (by decide) (by decide)).trans unmoduled
        simp only [Node.flatten, Node.flattenFields, Node.flattenField, List.singleton_append,
          Library.ofValue, Library.coordinate?, module]
        rfl
      · rw [← resolved, Catalog.libraryVersion?]
        refine congrArg₂ _ (beside (by decide) (by decide)) ?_
        exact (Table.inlineVersion?_cons (by decide)).trans (Table.inlineVersion?_cons (by decide))

/-- A plugin means the same in every notation. -/
theorem PluginNotation.ofValue_flatten {document : Document} {id version : String} {node : Node}
    (written : PluginNotation document id version node) (unseparated : ':' ∉ id.toList)
    (some_version : version ≠ "") :
    (Plugin.ofValue node.flatten).id = some id ∧
      (Catalog.ofDocument document).pluginVersion? (Plugin.ofValue node.flatten) =
        some version := by
  cases written with
  | text =>
      have front : ∀ char ∈ id.toList, (char != ':') = true := by
        intro char member
        rw [bne_iff_ne]
        rintro rfl
        exact unseparated member
      have whole : (id ++ ":" ++ version).toList = id.toList ++ ':' :: version.toList := by simp
      have span := Text.takeWhile_of_stops front
        (@Text.stops_cons (· != ':') version.toList ':' rfl)
      simp only [Node.flatten, Plugin.ofValue, whole, span, List.drop_left]
      exact ⟨congrArg some String.ofList_toList, congrArg some String.ofList_toList⟩
  | table versioned =>
      have resolved := versioned.resolve?_eq some_version
      refine ⟨rfl, ?_⟩
      rw [← resolved, Catalog.pluginVersion?]
      refine congrArg₂ _ ?_ ?_
      · exact Table.asText?_cons_of_ne (by decide)
      · exact Table.inlineVersion?_cons (by decide)

/-- All notations of a library mean the same, and so do all notations of a plugin: the entry that
comes first under its alias gives the coordinate or the identifier and the version that it is
written from. -/
theorem declares_of_notation [CallStack] :
    (∀ (placed : PlacedEntry Section.libraries.name) (group artifact version : String),
      placed.ComesFirst → ':' ∉ group.toList → ':' ∉ artifact.toList → ':' ∉ version.toList →
      version ≠ "" →
      LibraryNotation placed.document group artifact version placed.entry.value.node →
      DeclaresLibrary placed.text placed.entry.target.key.name (group ++ ":" ++ artifact)
        version) ∧
    ∀ (placed : PlacedEntry Section.plugins.name) (id version : String),
      placed.ComesFirst → ':' ∉ id.toList → version ≠ "" →
      PluginNotation placed.document id version placed.entry.value.node →
      DeclaresPlugin placed.text placed.entry.target.key.name id version := by
  constructor
  · intro placed group artifact version first ungrouped unnamed unversioned some_version written
    obtain ⟨coordinate, resolved⟩ :=
      written.ofValue_flatten ungrouped unnamed unversioned some_version
    have shallow := Nat.le_trans written.nesting_le CallStack.two_le_tableDepth
    exact ⟨_, _, placed.ofText_placed shallow, Catalog.get?_bindings_placed placed first,
      coordinate, resolved⟩
  · intro placed id version first unseparated some_version written
    obtain ⟨identified, resolved⟩ := written.ofValue_flatten unseparated some_version
    have shallow := Nat.le_trans written.nesting_le CallStack.two_le_tableDepth
    exact ⟨_, _, placed.ofText_placed shallow, Catalog.get?_bindings_placed placed first,
      identified, resolved⟩

open scoped CallStack

/-- A library that refers to a version, with a comment after it. -/
def referringLibrary : PlacedEntry Section.libraries.name where
  before := "[versions]\nr = '1'\n[libraries]"
  entry :=
    { leading := []
      target := ⟨⟨"lib".toList, "lib", 1, rfl⟩, [.space], [.space]⟩
      value := .table
        (.more [] ⟨.ofName "module", [.space], [.space]⟩
            (.text ⟨"'g:a'".toList, "g:a", Text.stops_cons rfl, by decide, by decide, 1, rfl⟩) []
          (.last [.space] ⟨⟨"version . ref".toList, "version.ref", 1, rfl⟩, [], []⟩
            (.text ⟨"r ".toList, "r", Text.stops_cons rfl, by decide, by decide, 1, rfl⟩) []))
      trailer := .comment [.space] " pinned".toList (by decide) }
  rest := "\n[plugins]"
  front := ⟨["versions", "libraries"], [⟨"versions", "r", .text "1", 2⟩]⟩
  back := ⟨["plugins"], []⟩
  frontRead := rfl
  backRead := rfl
  breaks := by simp [BreaksLine]
  apart := by decide
  inside := rfl

/-- A plugin in one text, with a colon in its version, at the end of a document. -/
def wholePlugin : PlacedEntry Section.plugins.name where
  before := "[plugins]"
  entry :=
    { leading := []
      target := ⟨.ofName "p", [], []⟩
      value := .text (.ofContent "id:1:2")
      trailer := .blank [] }
  rest := ""
  front := ⟨["plugins"], []⟩
  back := ⟨[], []⟩
  frontRead := rfl
  backRead := rfl
  breaks := by simp [BreaksLine]
  apart := by decide
  inside := rfl

theorem declares_of_notation_reference :
    DeclaresLibrary referringLibrary.text "lib" "g:a" "1" ∧
      referringLibrary.text = "[versions]\nr = '1'\n[libraries]\n" ++
        "lib = \x7b\"module\" = 'g:a', version . ref=r \x7d # pinned\n[plugins]" ∧
      DeclaresPlugin wholePlugin.text "p" "id" "1:2" ∧
      wholePlugin.text = "[plugins]\n\"p\"=\"id:1:2\"" := by
  have library := declares_of_notation.1 referringLibrary "g" "a" "1" (by decide) (by decide)
    (by decide) (by decide) (by decide) (.module (.dottedReference ⟨_, rfl, rfl⟩))
  have plugin := declares_of_notation.2 wholePlugin "id" "1:2" (by decide) (by decide) (by decide)
    .text
  exact ⟨library, by decide, plugin, by decide⟩

end VersionCatalog
