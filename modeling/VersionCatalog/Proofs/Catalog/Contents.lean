import VersionCatalog.Proofs.Catalog.Sections
import VersionCatalog.Proofs.Occurrence

/-!
# What a catalog holds

A catalog binds every key of a section where it comes first, to what that first entry declares.
Every later entry of the key is recorded as a repeat, and so is every field that comes again in a
table that is bound. `ofDocument_holds` says that this is all: taking in one more entry keeps the
account of what the entries before it left behind.
-/

namespace VersionCatalog

open Document

/-- Whether an entry stands in a section that a catalog is made of. -/
def Entry.isKnown (entry : Entry) : Bool :=
  (Section.ofName? entry.sectionName).isSome

/-- Whether an earlier entry of the same section has the key of an entry. -/
def Entry.comesAgain (earlier : List Entry) (entry : Entry) : Bool :=
  earlier.any fun other => other.sectionName == entry.sectionName && other.key == entry.key

/-- The fields of a table that an earlier field of the table shares its name with. -/
def Document.Value.fieldsAgain : Value → List String
  | .table fields =>
      ((withEarlier (Table.names fields)).filter fun (earlier, name) => name ∈ earlier).map Prod.snd
  | _ => []

/-- The repeats that an entry makes after others. -/
def Entry.repeatsAfter (earlier : List Entry) (entry : Entry) : List Repeat :=
  match Section.ofName? entry.sectionName with
  | none => []
  | some kind =>
      if entry.comesAgain earlier then [⟨kind, entry.key, entry.line⟩]
      else entry.value.fieldsAgain.map fun field => ⟨kind, entry.key ++ "." ++ field, entry.line⟩

namespace Aliases

variable {α : Type} {aliases : Aliases α} {key : String}

theorem isSome_get?_iff : (aliases.get? key).isSome ↔ key ∈ aliases.keys := by
  rw [get?, keys, List.lookup_isSome_iff, List.mem_map]
  refine exists_congr fun binding => and_congr_right fun _ => ?_
  rw [beq_iff_eq, eq_comm]

/-- A key is bound after the others, unless it is bound. -/
theorem bind?_cases (aliases : Aliases α) (key : String) (item : α) :
    (key ∈ aliases.keys ∧ aliases.bind? key item = none) ∨
      (key ∉ aliases.keys ∧ ∃ bound, aliases.bind? key item = some bound ∧
        bound.toList = aliases.toList ++ [(key, item)]) := by
  cases found : aliases.bind? key item with
  | none => exact .inl ⟨bind?_eq_none_iff.1 found, rfl⟩
  | some bound =>
      refine .inr ⟨fun taken => ?_, bound, rfl, toList_of_bind? found⟩
      rw [bind?_eq_none_iff.2 taken] at found
      cases found

end Aliases

namespace Catalog

/-- The number of aliases that are bound in all sections together. -/
def size (catalog : Catalog) : Nat :=
  catalog.versions.size + catalog.libraries.size + catalog.plugins.size + catalog.bundles.size

/-- A catalog holds what entries declare, and nothing else. -/
structure Holds (entries : List Entry) (catalog : Catalog) : Prop where
  /-- A section binds the keys of its entries in the order in which they first occur. -/
  keys (kind : Section) : catalog.keys kind =
    firstOccurrences ((entries.filter fun entry => entry.sectionName = kind.name).map Entry.key)
  /-- A key is bound to what the first entry with that key declares. -/
  bound (kind : Section) (key : String) : (catalog.bindings kind).get? key =
    (entries.find? fun entry => entry.sectionName = kind.name && entry.key = key).map
      fun entry => kind.item entry.value
  /-- The repeats are those of the entries in order. -/
  repeats : catalog.repeats =
    (withEarlier entries).flatMap fun (earlier, entry) => entry.repeatsAfter earlier
  /-- Every entry of a known section is bound, or comes again. -/
  counted : (entries.filter Entry.isKnown).length =
    catalog.size + ((withEarlier entries).filter fun (earlier, entry) =>
      entry.isKnown && entry.comesAgain earlier).length

variable {catalog : Catalog} {kind : Section} {entry : Entry} {entries : List Entry}

/-! ## Taking in one entry -/

theorem keys_bindings (catalog : Catalog) (kind : Section) :
    (catalog.bindings kind).keys = catalog.keys kind := by
  cases kind <;> rfl

/-- An entry is bound in its section unless its key is bound there, and it is bound nowhere else. -/
theorem toList_bindings_addEntry (catalog : Catalog) (kind : Section) (entry : Entry) :
    ((catalog.addEntry entry).bindings kind).toList =
      (catalog.bindings kind).toList ++
        if entry.sectionName = kind.name ∧ entry.key ∉ catalog.keys kind then
          [(entry.key, kind.item entry.value)]
        else [] := by
  rw [← keys_bindings]
  by_cases here : entry.sectionName = kind.name
  · rw [addEntry_eq here]
    rcases (catalog.bindings kind).bind?_cases entry.key (kind.item entry.value) with
      ⟨taken, found⟩ | ⟨free, bound, found, added⟩
    · simp [found, taken]
    · simp [found, here, free, added]
  · rw [(addEntry_sameIn_of_ne here).bindings]
    simp [here]

theorem keys_addEntry (catalog : Catalog) (kind : Section) (entry : Entry) :
    (catalog.addEntry entry).keys kind =
      catalog.keys kind ++
        if entry.sectionName = kind.name ∧ entry.key ∉ catalog.keys kind then [entry.key]
        else [] := by
  rw [← keys_bindings, Aliases.keys, toList_bindings_addEntry, List.map_append, ← Aliases.keys,
    keys_bindings]
  split <;> rfl

/-- A key is looked up among the bindings before, and then in the entry. -/
theorem get?_bindings_addEntry (catalog : Catalog) (kind : Section) (entry : Entry) (key : String) :
    ((catalog.addEntry entry).bindings kind).get? key =
      ((catalog.bindings kind).get? key).or
        (if entry.sectionName = kind.name ∧ entry.key = key then some (kind.item entry.value)
        else none) := by
  have taken : entry.key ∈ catalog.keys kind → entry.key = key →
      ((catalog.bindings kind).get? key).isSome := by
    rintro taken rfl
    rwa [Aliases.isSome_get?_iff, keys_bindings]
  rw [Aliases.get?, toList_bindings_addEntry, List.lookup_append, ← Aliases.get?]
  by_cases same : entry.key = key
  · by_cases bound : entry.key ∈ catalog.keys kind
    · simp [bound, Option.or_of_isSome (taken bound same)]
    · simp only [same] at bound ⊢
      simp [bound, apply_ite (List.lookup key)]
  · simp [same, apply_ite (List.lookup key), List.lookup_cons, beq_false_of_ne (Ne.symm same)]

/-- The repeats of an entry are recorded after the others. -/
theorem repeats_addEntry (catalog : Catalog) (entry : Entry) :
    (catalog.addEntry entry).repeats =
      catalog.repeats ++
        match Section.ofName? entry.sectionName with
        | none => []
        | some kind =>
            if entry.key ∈ catalog.keys kind then [⟨kind, entry.key, entry.line⟩]
            else fieldRepeats kind entry := by
  cases known : Section.ofName? entry.sectionName with
  | none => simp [addEntry, known]
  | some kind =>
      rw [addEntry_eq (Section.name_of_ofName? known).symm]
      simp only [← keys_bindings]
      rcases (catalog.bindings kind).bind?_cases entry.key (kind.item entry.value) with
        ⟨taken, found⟩ | ⟨free, bound, found, _⟩
      · simp [found, taken, addRepeats]
      · simp [found, free, addRepeats]

theorem size_eq (catalog : Catalog) :
    catalog.size = (catalog.keys .versions).length + (catalog.keys .libraries).length +
      (catalog.keys .plugins).length + (catalog.keys .bundles).length := by
  simp [size, keys, Aliases.keys, Aliases.size]

/-- An entry adds an alias unless its section is unknown or its key is bound there. -/
theorem size_addEntry (catalog : Catalog) (entry : Entry) :
    (catalog.addEntry entry).size =
      catalog.size +
        match Section.ofName? entry.sectionName with
        | none => 0
        | some kind => if entry.key ∈ catalog.keys kind then 0 else 1 := by
  cases known : Section.ofName? entry.sectionName with
  | none => simp [addEntry, known]
  | some kind =>
      rw [size_eq, size_eq]
      simp only [keys_addEntry, ← Section.name_of_ofName? known]
      by_cases taken : entry.key ∈ catalog.keys kind
      · cases kind <;> simp [Section.name, taken]
      · cases kind <;> simp [Section.name, taken] <;> omega

/-! ## Taking in all entries -/

theorem fieldRepeats_eq (kind : Section) (entry : Entry) :
    fieldRepeats kind entry =
      entry.value.fieldsAgain.map fun field => ⟨kind, entry.key ++ "." ++ field, entry.line⟩ := by
  obtain ⟨name, key, value, line⟩ := entry
  cases value with
  | text content => rfl
  | array items => rfl
  | table fields =>
      simp only [fieldRepeats, Value.fieldsAgain, Table.repeatedNames, laterOccurrences_eq]

namespace Holds

theorem empty (sections : List String) : Holds [] { Catalog.empty with sections } where
  keys kind := by cases kind <;> rfl
  bound kind key := by cases kind <;> rfl
  repeats := rfl
  counted := rfl

/-- A key is bound in a section when an entry of the section has it. -/
theorem mem_keys_iff (holds : Holds entries catalog) (here : entry.sectionName = kind.name) :
    entry.key ∈ catalog.keys kind ↔ entry.comesAgain entries = true := by
  simp only [holds.keys, mem_firstOccurrences, List.mem_map, List.mem_filter, decide_eq_true_eq,
    Entry.comesAgain, List.any_eq_true, Bool.and_eq_true, beq_iff_eq, here, and_assoc]

/-- What is held of entries is held when another one is taken in. -/
theorem addEntry (holds : Holds entries catalog) (entry : Entry) :
    Holds (entries ++ [entry]) (catalog.addEntry entry) where
  keys kind := by
    rw [keys_addEntry, holds.keys, List.filter_append, List.map_append]
    by_cases here : entry.sectionName = kind.name
    · rw [List.filter_cons_of_pos (by simpa using here), List.filter_nil, List.map_singleton,
        firstOccurrences_append_singleton]
      simp only [here, true_and, mem_firstOccurrences, ite_not]
    · simp [here]
  bound kind key := by
    rw [get?_bindings_addEntry, holds.bound, List.find?_append, Option.map_or]
    by_cases named : entry.sectionName = kind.name ∧ entry.key = key
    · simp [named]
    · simp [named]
  repeats := by
    rw [repeats_addEntry, holds.repeats, withEarlier_append_singleton, List.flatMap_append,
      List.flatMap_singleton]
    simp only [Entry.repeatsAfter]
    cases known : Section.ofName? entry.sectionName with
    | none => rfl
    | some kind =>
        simp only [holds.mem_keys_iff (Section.name_of_ofName? known).symm, fieldRepeats_eq]
  counted := by
    rw [size_addEntry, withEarlier_append_singleton, List.filter_append, List.filter_append,
      List.length_append, List.length_append, holds.counted]
    cases known : Section.ofName? entry.sectionName with
    | none => simp [Entry.isKnown, known]
    | some kind =>
        simp only [holds.mem_keys_iff (Section.name_of_ofName? known).symm]
        by_cases again : entry.comesAgain entries = true
        · simp [Entry.isKnown, known, again]; omega
        · simp [Entry.isKnown, known, again]; omega

end Holds

/-- An entry of no known section is passed over. -/
theorem addEntry_of_unknown (catalog : Catalog) (unknown : ¬entry.isKnown = true) :
    catalog.addEntry entry = catalog := by
  simp only [Entry.isKnown, Bool.not_eq_true, Option.isSome_eq_false_iff, Option.isNone_iff_eq_none]
    at unknown
  simp only [addEntry, unknown]

/-- The catalog of a document takes in one entry after the other. -/
theorem ofDocument_append_singleton (sections : List String) (entries : List Entry) (last : Entry) :
    ofDocument ⟨sections, entries ++ [last]⟩ =
      (ofDocument ⟨sections, entries⟩).addEntry last := by
  simp [ofDocument]

theorem holds_entries (document : Document) : Holds document.entries (ofDocument document) := by
  obtain ⟨sections, entries⟩ := document
  induction entries using List.reverseRecOn with
  | nil => exact .empty sections
  | append_singleton entries last induction =>
      rw [ofDocument_append_singleton]
      exact induction.addEntry last

/-- A section binds some of the entries, in their order. -/
theorem toList_bindings_sublist (document : Document) (kind : Section) :
    ((ofDocument document).bindings kind).toList.Sublist
      (document.entries.map fun entry => (entry.key, kind.item entry.value)) := by
  obtain ⟨sections, entries⟩ := document
  induction entries using List.reverseRecOn with
  | nil => cases kind <;> exact .slnil
  | append_singleton entries last induction =>
      rw [ofDocument_append_singleton, toList_bindings_addEntry, List.map_append]
      refine induction.append ?_
      split
      · exact .refl _
      · exact List.nil_sublist _

/-- A key is repeated in its section only where it is repeated in the document, unless fields of
tables come again. -/
theorem map_key_repeats_sublist (document : Document)
    (plain : ∀ entry ∈ document.entries, entry.value.fieldsAgain = []) :
    ((ofDocument document).repeats.map Repeat.key).Sublist
      (laterOccurrences (document.entries.map Entry.key)) := by
  obtain ⟨sections, entries⟩ := document
  induction entries using List.reverseRecOn with
  | nil => exact .slnil
  | append_singleton entries last induction =>
      simp only [List.forall_mem_append, List.forall_mem_singleton] at plain
      have holds := holds_entries ⟨sections, entries⟩
      rw [ofDocument_append_singleton, repeats_addEntry, List.map_append, List.map_append,
        List.map_singleton, laterOccurrences, laterOccurrencesAfter_append_singleton,
        ← laterOccurrences]
      refine (induction plain.1).append ?_
      cases known : Section.ofName? last.sectionName with
      | none => exact List.nil_sublist _
      | some kind =>
          simp only [holds.mem_keys_iff (Section.name_of_ofName? known).symm, fieldRepeats_eq,
            plain.2]
          by_cases again : last.comesAgain entries = true
          · obtain ⟨other, member, same⟩ := List.any_eq_true.1 again
            rw [Bool.and_eq_true, beq_iff_eq, beq_iff_eq] at same
            have repeated : last.key ∈ entries.map Entry.key :=
              List.mem_map.2 ⟨other, member, same.2⟩
            simp [again, repeated]
          · simp [again]

/-- A catalog holds what the entries of its document declare, and nothing else. Entries of other
sections make no difference. -/
theorem ofDocument_holds (document : Document) :
    Holds document.entries (ofDocument document) ∧
      ofDocument { document with entries := document.entries.filter Entry.isKnown } =
        ofDocument document := by
  refine ⟨holds_entries document, ?_⟩
  obtain ⟨sections, entries⟩ := document
  induction entries using List.reverseRecOn with
  | nil => rfl
  | append_singleton entries last induction =>
      rw [ofDocument_append_singleton, ← induction]
      by_cases known : last.isKnown = true
      · simp [known, ofDocument_append_singleton]
      · simp [known, addEntry_of_unknown _ known]

end Catalog

end VersionCatalog
