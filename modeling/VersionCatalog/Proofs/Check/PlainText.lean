import VersionCatalog.Proofs.Catalog.Contents
import VersionCatalog.Proofs.Check.Outcome
import VersionCatalog.Proofs.Document.Plain

/-!
# Both scopes on a plain text

In the scope of the document the text is searched for assignments; otherwise the rules look at what
the sections declare. On a plain text the search finds exactly the entries, so that the wider scope
has every finding of the narrower one: sections only take something away, namely entries of other
sections, and keys that come again in another section.
-/

namespace VersionCatalog

open Document Text

namespace Document.PlainText

variable (plain : PlainText)

/-- What the rules look at in a plain text. -/
def context (scope : KeyScope) : RuleContext :=
  .ofDocument plain.text plain.meaning scope

theorem fieldsAgain_of_mem_entries : ∀ entry ∈ plain.meaning.entries,
    entry.value.fieldsAgain = [] := by
  intro entry member
  have pair : (entry.key, entry.value) ∈
      plain.meaning.entries.map fun entry => (entry.key, entry.value) :=
    List.mem_map_of_mem member
  rw [map_entries_meaning, List.mem_map] at pair
  obtain ⟨⟨key, value⟩, _, same⟩ := pair
  rw [Prod.mk.injEq] at same
  rw [← same.2]
  rfl

/-- In the scope of the document, versions are expected in all entries. -/
theorem versionTexts_document :
    (Rule.versionTexts (plain.context .document)).map
        (fun (key, version) => (key, Value.text version)) =
      plain.meaning.entries.map fun entry => (entry.key, entry.value) := by
  rw [map_entries_meaning]
  simp [Rule.versionTexts, context, RuleContext.ofDocument, quotedAssignments_text]

theorem repeatedKeys_document :
    Rule.repeatedKeys (plain.context .document) =
      laterOccurrences (plain.meaning.entries.map Entry.key) := by
  have keys : plain.meaning.entries.map Entry.key =
      plain.assigned.map fun assignment => assignment.1.text := by
    have pairs := congrArg (List.map Prod.fst) plain.map_entries_meaning
    simpa [Function.comp_def] using pairs
  rw [keys]
  simp [Rule.repeatedKeys, context, RuleContext.ofDocument, assignedWords_text, Function.comp_def]

theorem versionTexts_document_eq :
    Rule.versionTexts (plain.context .document) =
      plain.meaning.entries.map fun entry => (entry.key, versionOfValue entry.value) := by
  have pairs := congrArg (List.map fun (key, value) => (key, versionOfValue value))
    plain.versionTexts_document
  simpa [Function.comp_def, versionOfValue] using pairs

theorem versionTexts_sublist :
    (Rule.versionTexts (plain.context .namespaced)).Sublist
      (Rule.versionTexts (plain.context .document)) := by
  rw [plain.versionTexts_document_eq]
  exact Catalog.toList_bindings_sublist plain.meaning .versions

theorem repeatedKeys_sublist :
    (Rule.repeatedKeys (plain.context .namespaced)).Sublist
      (Rule.repeatedKeys (plain.context .document)) := by
  rw [repeatedKeys_document]
  exact Catalog.map_key_repeats_sublist plain.meaning plain.fieldsAgain_of_mem_entries

/-- The two rules that look at the scope find more in that of the document, and all other standard
rules find the same. -/
theorem check_sublist : ∀ rule ∈ Rule.standard, ∀ fewer more,
    rule.check (plain.context .namespaced) = .ok fewer →
      rule.check (plain.context .document) = .ok more → fewer.Sublist more := by
  have kept {rule : Rule} (same : rule.check (plain.context .namespaced) =
      rule.check (plain.context .document)) (fewer more : List Finding)
      (left : rule.check (plain.context .namespaced) = .ok fewer)
      (right : rule.check (plain.context .document) = .ok more) : fewer.Sublist more := by
    rw [same, right, Except.ok.injEq] at left
    rw [left]
  simp only [Rule.standard, List.forall_mem_cons]
  refine ⟨kept rfl, kept rfl, ?_, ?_, kept rfl, kept rfl, kept rfl, kept rfl, kept rfl, kept rfl,
    kept rfl, nofun⟩
  · intro fewer more left right
    rw [← Except.ok.inj left, ← Except.ok.inj right]
    exact (plain.versionTexts_sublist.filter _).map _
  · intro fewer more left right
    rw [← Except.ok.inj left, ← Except.ok.inj right]
    exact plain.repeatedKeys_sublist.map _

/-- No rule breaks off in one scope only. -/
theorem applyRules_eq_error_iff_document (broken : Interruption) :
    applyRules (plain.context .namespaced) Rule.standard = .error broken ↔
      applyRules (plain.context .document) Rule.standard = .error broken := by
  rw [applyRules_eq_error_iff, applyRules_eq_error_iff, Rule.standard_breaksOff_iff,
    Rule.standard_breaksOff_iff]
  rfl

theorem checkText_sublist [CallStack] (time : Timestamp) :
    (checkText Rule.standard .namespaced time plain.text).findings.Sublist
      (checkText Rule.standard .document time plain.text).findings := by
  rw [checkText, checkText, ofText_plain]
  split
  · exact .refl _
  · cases found : applyRules (plain.context .namespaced) Rule.standard with
    | error broken =>
        have other := (plain.applyRules_eq_error_iff_document broken).1 found
        rw [context] at found other
        simp only [found, other]
        exact .refl _
    | ok fewer =>
        cases other : applyRules (plain.context .document) Rule.standard with
        | error broken =>
            rw [(plain.applyRules_eq_error_iff_document broken).2 other] at found
            cases found
        | ok more =>
            have kept := Gives.sublist plain.check_sublist (applyRules_eq_ok_iff.1 found)
              (applyRules_eq_ok_iff.1 other)
            rw [context] at found other
            simp only [found, other]
            exact kept

end Document.PlainText

/-- A plain text is read as the document that is meant, and the search for assignments finds its
entries: they are the versions that are looked at in the scope of the document, where each version
of a wrong form is reported, and each key that an earlier entry has too, in order. Both rules, and
the check with all standard rules, find at least as much there as in the scope of the sections. -/
theorem plainText_scopes_agree [CallStack] (plain : PlainText) :
    ofText plain.text = .ok plain.meaning ∧
      (Rule.versionTexts (.ofDocument plain.text plain.meaning .document)).map
          (fun (key, version) => (key, Value.text version)) =
        plain.meaning.entries.map (fun entry => (entry.key, entry.value)) ∧
      Rule.versionFormat.check (.ofDocument plain.text plain.meaning .document) =
        .ok ((plain.meaning.entries.filter fun entry =>
            !isVersion (versionOfValue entry.value)).map fun entry =>
          { rule := "version_format"
            severity := .error
            message := s!"Invalid version format: {versionOfValue entry.value} for key {entry.key}"
            hint := some
              "Use MAJOR[.MINOR[.PATCH]][-pre][+build], MAJOR.MINOR.+ or a range like [1.0,2.0)" }) ∧
      Rule.duplicateKeys.check (.ofDocument plain.text plain.meaning .document) =
        .ok (((withEarlier plain.meaning.entries).filter fun (earlier, entry) =>
            entry.key ∈ earlier.map Entry.key).map fun (_, entry) =>
          { rule := "duplicate_keys"
            severity := .error
            message := s!"Duplicate key: {entry.key}"
            hint := some "Remove or rename the repeated declaration; the first one is used" }) ∧
      (∀ rule ∈ [Rule.versionFormat, Rule.duplicateKeys], ∃ fewer more,
        rule.check (.ofDocument plain.text plain.meaning .namespaced) = .ok fewer ∧
          rule.check (.ofDocument plain.text plain.meaning .document) = .ok more ∧
          fewer.Sublist more) ∧
      ∀ time, (checkText Rule.standard .namespaced time plain.text).findings.Sublist
        (checkText Rule.standard .document time plain.text).findings := by
  refine ⟨plain.ofText_plain, plain.versionTexts_document, ?_, ?_, ?_, plain.checkText_sublist⟩
  · have texts := plain.versionTexts_document_eq
    simp only [Rule.versionFormat, PlainText.context] at texts ⊢
    rw [texts]
    simp [List.filter_map, Function.comp_def]
  · have keys := plain.repeatedKeys_document
    rw [laterOccurrences_eq, withEarlier_map] at keys
    simp only [Rule.duplicateKeys, PlainText.context] at keys ⊢
    rw [keys]
    simp [List.filter_map, Function.comp_def]
  · simp only [List.forall_mem_cons]
    exact ⟨⟨_, _, rfl, rfl, (plain.versionTexts_sublist.filter _).map _⟩,
      ⟨_, _, rfl, rfl, plain.repeatedKeys_sublist.map _⟩, nofun⟩

end VersionCatalog
