import VersionCatalog.Catalog.OfDocument

/-!
# Sections of a catalog

What a catalog binds in a section depends on the entries of that section alone, in their order but
not on their lines, and so do the repeats that are recorded for it. Where every section of two
documents has the same entries, the catalogs agree up to the order of the repeats.
-/

namespace VersionCatalog

/-- The entry with its line forgotten. -/
def Entry.withoutLine (entry : Entry) : Entry :=
  { entry with line := 0 }

/-- The repeat with its line forgotten. -/
def Repeat.withoutLine (again : Repeat) : Repeat :=
  { again with line := 0 }

theorem Entry.withoutLine_eq_iff {entry other : Entry} :
    entry.withoutLine = other.withoutLine ↔
      entry.sectionName = other.sectionName ∧ entry.key = other.key ∧
        entry.value = other.value := by
  simp [withoutLine]

namespace Section

/-- What an alias of a section is bound to. -/
def Item : Section → Type
  | versions => String
  | libraries => Library
  | plugins => Plugin
  | bundles => List String

/-- What a section takes from a value. -/
def item : (kind : Section) → Document.Value → kind.Item
  | versions => versionOfValue
  | libraries => Library.ofValue
  | plugins => Plugin.ofValue
  | bundles => bundleOfValue

/-- The entries of a section in order, with their lines forgotten. -/
def entriesOf (kind : Section) (entries : List Entry) : List Entry :=
  (entries.map Entry.withoutLine).filter fun entry => entry.sectionName = kind.name

theorem ofName?_name (kind : Section) : ofName? kind.name = some kind := by
  cases kind with
  | versions => rfl
  | libraries => rfl
  | plugins => rfl
  | bundles => rfl

theorem name_of_ofName? {name : String} {kind : Section} (known : ofName? name = some kind) :
    kind.name = name := by
  simpa using List.find?_some known

end Section

namespace Catalog

/-- The bindings of a section. -/
def bindings (catalog : Catalog) : (kind : Section) → Aliases kind.Item
  | .versions => catalog.versions
  | .libraries => catalog.libraries
  | .plugins => catalog.plugins
  | .bundles => catalog.bundles

/-- The catalog with other bindings of a section. -/
def setBindings (catalog : Catalog) : (kind : Section) → Aliases kind.Item → Catalog
  | .versions, aliases => { catalog with versions := aliases }
  | .libraries, aliases => { catalog with libraries := aliases }
  | .plugins, aliases => { catalog with plugins := aliases }
  | .bundles, aliases => { catalog with bundles := aliases }

/-- The repeats of a section in order, with their lines forgotten. -/
def repeatsOf (catalog : Catalog) (kind : Section) : List Repeat :=
  (catalog.repeats.map Repeat.withoutLine).filter fun again => again.kind = kind

/-- Two catalogs are the same in a section, but for lines. -/
structure SameIn (kind : Section) (left right : Catalog) : Prop where
  bindings : left.bindings kind = right.bindings kind
  repeats : left.repeatsOf kind = right.repeatsOf kind

/-- Two catalogs declare the same. What is repeated may come in another order and on other lines,
and the sections may come in another order. -/
structure Agrees (left right : Catalog) : Prop where
  versions : left.versions = right.versions
  libraries : left.libraries = right.libraries
  plugins : left.plugins = right.plugins
  bundles : left.bundles = right.bundles
  repeats : (left.repeats.map Repeat.withoutLine).Perm (right.repeats.map Repeat.withoutLine)
  sections : left.sections.Perm right.sections

variable {left right catalog : Catalog} {kind other : Section} {entry : Entry}

theorem SameIn.refl (kind : Section) (catalog : Catalog) : SameIn kind catalog catalog :=
  ⟨rfl, rfl⟩

theorem SameIn.symm (same : SameIn kind left right) : SameIn kind right left :=
  ⟨same.bindings.symm, same.repeats.symm⟩

theorem SameIn.trans {middle : Catalog} (first : SameIn kind left middle)
    (second : SameIn kind middle right) : SameIn kind left right :=
  ⟨first.bindings.trans second.bindings, first.repeats.trans second.repeats⟩

/-! ## Bindings of one section -/

@[simp]
theorem bindings_setBindings (aliases : Aliases kind.Item) :
    (catalog.setBindings kind aliases).bindings kind = aliases := by
  cases kind <;> rfl

/-- The other sections keep their bindings. -/
theorem bindings_setBindings_of_ne (apart : other ≠ kind) (aliases : Aliases other.Item) :
    (catalog.setBindings other aliases).bindings kind = catalog.bindings kind := by
  cases other <;> cases kind <;> first | rfl | exact (apart rfl).elim

@[simp]
theorem repeats_setBindings (aliases : Aliases kind.Item) :
    (catalog.setBindings kind aliases).repeats = catalog.repeats := by
  cases kind <;> rfl

@[simp]
theorem sections_setBindings (aliases : Aliases kind.Item) :
    (catalog.setBindings kind aliases).sections = catalog.sections := by
  cases kind <;> rfl

@[simp]
theorem bindings_addRepeats (repeats : List Repeat) :
    (catalog.addRepeats repeats).bindings kind = catalog.bindings kind := by
  cases kind <;> rfl

/-- Whether a key can be bound depends on the bindings of the section. -/
theorem bind?_eq (catalog : Catalog) (kind : Section) (key : String) (value : Document.Value) :
    catalog.bind? kind key value =
      ((catalog.bindings kind).bind? key (kind.item value)).map (catalog.setBindings kind) := by
  cases kind <;> rfl

/-- Repeats are recorded for their sections. -/
theorem repeatsOf_addRepeats (repeats : List Repeat) :
    (catalog.addRepeats repeats).repeatsOf kind =
      catalog.repeatsOf kind ++
        (repeats.map Repeat.withoutLine).filter fun again => again.kind = kind := by
  simp only [repeatsOf, addRepeats, List.map_append, List.filter_append]

theorem repeatsOf_setBindings (aliases : Aliases other.Item) :
    (catalog.setBindings other aliases).repeatsOf kind = catalog.repeatsOf kind := by
  rw [repeatsOf, repeats_setBindings, repeatsOf]

/-! ## Taking in one entry -/

theorem kind_of_mem_fieldRepeats {again : Repeat} (member : again ∈ fieldRepeats kind entry) :
    again.kind = kind := by
  unfold fieldRepeats at member
  split at member
  · obtain ⟨field, _, rfl⟩ := List.mem_map.1 member
    rfl
  · simp at member

/-- The repeats in a table do not depend on the line of its entry, but for their own lines. -/
theorem fieldRepeats_congr {entry other : Entry} (alike : entry.withoutLine = other.withoutLine) :
    (fieldRepeats kind entry).map Repeat.withoutLine =
      (fieldRepeats kind other).map Repeat.withoutLine := by
  obtain ⟨name, key, value, line⟩ := entry
  obtain ⟨_, _, _, otherLine⟩ := other
  cases alike
  cases value with
  | text content => rfl
  | array items => rfl
  | table table => simp only [fieldRepeats, List.map_map]; rfl

theorem addEntry_eq (here : entry.sectionName = kind.name) :
    catalog.addEntry entry =
      match (catalog.bindings kind).bind? entry.key (kind.item entry.value) with
      | some aliases =>
          (catalog.setBindings kind aliases).addRepeats (fieldRepeats kind entry)
      | none => catalog.addRepeats [⟨kind, entry.key, entry.line⟩] := by
  simp only [addEntry, here, Section.ofName?_name, bind?_eq]
  cases (catalog.bindings kind).bind? entry.key (kind.item entry.value) with
  | none => rfl
  | some aliases => rfl

/-- An entry of another section changes nothing in a section. -/
theorem addEntry_sameIn_of_ne (other : entry.sectionName ≠ kind.name) :
    SameIn kind (catalog.addEntry entry) catalog := by
  cases known : Section.ofName? entry.sectionName with
  | none =>
      simp only [addEntry, known]
      exact .refl kind catalog
  | some place =>
      have named := Section.name_of_ofName? known
      have apart : place ≠ kind := by
        rintro rfl
        exact other named.symm
      have nothing : ∀ repeats : List Repeat, (∀ again ∈ repeats, again.kind = place) →
          (repeats.map Repeat.withoutLine).filter (fun again => again.kind = kind) = [] := by
        intro repeats placed
        refine List.filter_eq_nil_iff.2 fun again member same => apart ?_
        obtain ⟨original, within, rfl⟩ := List.mem_map.1 member
        rw [← placed original within]
        exact of_decide_eq_true same
      rw [addEntry_eq named.symm]
      split
      · next aliases _ =>
          constructor
          · rw [bindings_addRepeats, bindings_setBindings_of_ne apart]
          · rw [repeatsOf_addRepeats, repeatsOf_setBindings,
              nothing _ fun again => kind_of_mem_fieldRepeats, List.append_nil]
      · constructor
        · rw [bindings_addRepeats]
        · rw [repeatsOf_addRepeats, nothing _ (by simp), List.append_nil]

/-- An entry of a section does the same to catalogs that are the same in the section. -/
theorem addEntry_congr (same : SameIn kind left right) {entry other : Entry}
    (alike : entry.withoutLine = other.withoutLine) (here : entry.sectionName = kind.name) :
    SameIn kind (left.addEntry entry) (right.addEntry other) := by
  obtain ⟨section_eq, key, value⟩ := Entry.withoutLine_eq_iff.1 alike
  rw [addEntry_eq here, addEntry_eq (section_eq ▸ here), key, value, same.bindings]
  split
  · next aliases _ =>
      constructor
      · simp only [bindings_addRepeats, bindings_setBindings]
      · rw [repeatsOf_addRepeats, repeatsOf_addRepeats, repeatsOf_setBindings,
          repeatsOf_setBindings, same.repeats, fieldRepeats_congr alike]
  · constructor
    · simp only [bindings_addRepeats, same.bindings]
    · rw [repeatsOf_addRepeats, repeatsOf_addRepeats, same.repeats]
      rfl

/-! ## Taking in all entries -/

/-- Only the entries of a section count for it. -/
theorem foldl_filter_sameIn (entries : List Entry) (same : SameIn kind left right) :
    SameIn kind (entries.foldl addEntry left)
      ((entries.filter fun entry => entry.sectionName = kind.name).foldl addEntry right) := by
  induction entries generalizing left right with
  | nil => exact same
  | cons entry entries induction =>
      -- Entries of other sections may be dropped, since they change nothing in this one.
      by_cases here : entry.sectionName = kind.name
      · rw [List.filter_cons_of_pos (by simpa using here)]
        exact induction (addEntry_congr same rfl here)
      · rw [List.filter_cons_of_neg (by simpa using here)]
        exact induction ((addEntry_sameIn_of_ne here).trans same)

theorem foldl_congr_sameIn {entries others : List Entry}
    (alike : entries.map Entry.withoutLine = others.map Entry.withoutLine)
    (here : ∀ entry ∈ entries, entry.sectionName = kind.name) (same : SameIn kind left right) :
    SameIn kind (entries.foldl addEntry left) (others.foldl addEntry right) := by
  induction entries generalizing others left right with
  | nil =>
      cases List.map_eq_nil_iff.1 alike.symm
      exact same
  | cons entry entries induction =>
      cases others with
      | nil => cases alike
      | cons other others =>
          simp only [List.map_cons, List.cons.injEq] at alike
          simp only [List.mem_cons, forall_eq_or_imp] at here
          rw [List.foldl_cons, List.foldl_cons]
          exact induction alike.2 here.2 (addEntry_congr same alike.1 here.1)

/-- What a catalog declares in a section depends on the entries of that section. -/
theorem ofDocument_sameIn {first second : Document}
    (alike : kind.entriesOf first.entries = kind.entriesOf second.entries) :
    SameIn kind (ofDocument first) (ofDocument second) := by
  have start : SameIn kind { empty with sections := first.sections }
      { empty with sections := second.sections } := by
    cases kind <;> exact ⟨rfl, rfl⟩
  have inside : ∀ entries : List Entry, ∀ entry ∈ entries.filter
      (fun entry => entry.sectionName = kind.name), entry.sectionName = kind.name := by
    simp
  have moved : ∀ entries : List Entry, kind.entriesOf entries =
      (entries.filter fun entry => entry.sectionName = kind.name).map Entry.withoutLine := by
    intro entries
    rw [Section.entriesOf, List.filter_map]
    rfl
  rw [moved, moved] at alike
  refine (foldl_filter_sameIn first.entries (.refl kind _)).trans ?_
  refine (foldl_congr_sameIn alike (inside _) start).trans ?_
  exact (foldl_filter_sameIn second.entries (.refl kind _)).symm

theorem sections_addEntry (catalog : Catalog) (entry : Entry) :
    (catalog.addEntry entry).sections = catalog.sections := by
  unfold addEntry
  split
  · rfl
  · rw [bind?_eq]
    split
    · next bound done =>
        obtain ⟨aliases, _, rfl⟩ := Option.map_eq_some_iff.1 done
        exact sections_setBindings aliases
    · rfl

/-- The sections of a catalog are those of its document. -/
theorem sections_ofDocument (document : Document) :
    (ofDocument document).sections = document.sections := by
  have kept : ∀ (entries : List Entry) (catalog : Catalog),
      (entries.foldl addEntry catalog).sections = catalog.sections := by
    intro entries
    induction entries with
    | nil => exact fun _ => rfl
    | cons entry entries induction =>
        intro catalog
        rw [List.foldl_cons, induction, sections_addEntry]
  exact kept _ _

/-- Lists are the same up to their order when they have the same elements of every kind in order. -/
theorem perm_of_filter_eq {α κ : Type} [DecidableEq α] [DecidableEq κ] (kindOf : α → κ)
    {left right : List α}
    (same : ∀ wanted, left.filter (fun element => kindOf element = wanted) =
      right.filter fun element => kindOf element = wanted) : left.Perm right := by
  rw [List.perm_iff_count]
  intro element
  have here : ∀ elements : List α, (elements.filter fun other =>
      kindOf other = kindOf element).count element = elements.count element := by
    intro elements
    exact List.count_filter (by simp)
  rw [← here left, ← here right, same]

/-- Documents with the same entries in every section declare the same. -/
theorem ofDocument_agrees {first second : Document}
    (alike : ∀ kind : Section, kind.entriesOf first.entries = kind.entriesOf second.entries)
    (sections : first.sections.Perm second.sections) :
    (ofDocument first).Agrees (ofDocument second) where
  versions := (@ofDocument_sameIn .versions _ _ (alike _)).bindings
  libraries := (@ofDocument_sameIn .libraries _ _ (alike _)).bindings
  plugins := (@ofDocument_sameIn .plugins _ _ (alike _)).bindings
  bundles := (@ofDocument_sameIn .bundles _ _ (alike _)).bindings
  repeats := perm_of_filter_eq Repeat.kind fun kind => (ofDocument_sameIn (alike kind)).repeats
  sections := by rwa [sections_ofDocument, sections_ofDocument]

end Catalog

end VersionCatalog
