import VersionCatalog.Proofs.Check.Outcome

/-!
# Valid catalogs

A rule accepts a context when it reports no error there. For each standard rule one lemma says what
it accepts, so that `checkText_isValid_iff` can say what a valid catalog is without the rules: its
text makes a document, and that document meets the demands on a catalog.
-/

namespace VersionCatalog

open Text

/-- A rule gives findings, none of which is an error. -/
def Rule.Accepts (rule : Rule) (context : RuleContext) : Prop :=
  ∃ findings, rule.check context = .ok findings ∧ ∀ finding ∈ findings, finding.severity ≠ .error

theorem Report.isValid_ofFindings_iff {findings : List Finding} {time : Timestamp} :
    (Report.ofFindings findings time).isValid = true ↔
      ∀ finding ∈ findings, finding.severity ≠ .error := by
  simp [Report.isValid, Report.ofFindings, Report.messages]

/-- The findings of rules hold no error exactly when every rule accepts. -/
theorem gives_no_error_iff {context : RuleContext} {rules : List Rule} :
    (∃ findings, Gives context rules findings ∧
        ∀ finding ∈ findings, finding.severity ≠ .error) ↔
      ∀ rule ∈ rules, rule.Accepts context := by
  constructor
  · rintro ⟨findings, ⟨parts, each, rfl⟩, mild⟩
    induction each with
    | nil => simp
    | @cons rule part rules parts found each induction =>
        have here : ∀ finding ∈ part, finding.severity ≠ .error := by
          intro finding member
          apply mild
          simp [member]
        have later : ∀ finding ∈ parts.flatten, finding.severity ≠ .error := by
          intro finding member
          apply mild
          rw [List.flatten_cons, List.mem_append]
          exact .inr member
        intro other member
        rcases List.mem_cons.1 member with rfl | within
        · exact ⟨part, found, here⟩
        · exact induction later other within
  · intro accepts
    induction rules with
    | nil => exact ⟨[], ⟨[], .nil, rfl⟩, by simp⟩
    | cons rule rules induction =>
        obtain ⟨part, found, mild⟩ := accepts rule List.mem_cons_self
        obtain ⟨findings, ⟨parts, each, rfl⟩, others⟩ :=
          induction fun other member => accepts other (List.mem_cons_of_mem _ member)
        refine ⟨part ++ parts.flatten, ⟨part :: parts, .cons found each, rfl⟩, ?_⟩
        intro finding member
        rcases List.mem_append.1 member with here | later
        · exact mild finding here
        · exact others finding later

namespace Rule

/-! ## What the standard rules accept -/

variable {context : RuleContext} {rule : Rule}

/-- A rule that reports an error for every item accepts when there are no items. -/
theorem accepts_iff_of_map {α : Type} {items : List α} {finding : α → Finding}
    (checked : rule.check context = .ok (items.map finding))
    (grave : ∀ item, (finding item).severity = .error) :
    rule.Accepts context ↔ items = [] := by
  simp only [Accepts, checked, Except.ok.injEq, exists_eq_left', List.mem_map,
    forall_exists_index, and_imp, forall_apply_eq_imp_iff₂, grave, ne_eq, not_true_eq_false]
  exact List.eq_nil_iff_forall_not_mem.symm

/-- A rule that reports no errors accepts. -/
theorem accepts_of_map {α : Type} {items : List α} {finding : α → Finding}
    (checked : rule.check context = .ok (items.map finding))
    (mild : ∀ item, (finding item).severity ≠ .error) : rule.Accepts context := by
  refine ⟨_, checked, ?_⟩
  intro found member
  obtain ⟨item, _, rfl⟩ := List.mem_map.1 member
  exact mild item

theorem requiredSections_accepts_iff :
    requiredSections.Accepts context ↔
      ∀ kind ∈ Section.required, ∃ before after,
        context.text = before ++ s!"[{kind.name}]".toList ++ after := by
  rw [accepts_iff_of_map rfl (fun _ => rfl), List.filter_eq_nil_iff]
  simp only [Bool.not_eq_true', Bool.not_eq_false, mentions_eq_true_iff]

theorem emptySections_accepts : emptySections.Accepts context :=
  accepts_of_map rfl (fun _ => nofun)

theorem versionFormat_accepts_iff :
    versionFormat.Accepts context ↔
      ∀ entry ∈ versionTexts context, isVersion entry.2 = true := by
  rw [accepts_iff_of_map rfl (fun _ => rfl), List.filter_eq_nil_iff]
  simp

theorem duplicateKeys_accepts_iff :
    duplicateKeys.Accepts context ↔ repeatedKeys context = [] :=
  accepts_iff_of_map rfl (fun _ => rfl)

/-- Unreferenced versions are not errors, so that only the references count. -/
theorem versionReferences_accepts_iff :
    versionReferences.Accepts context ↔
      ∀ reference ∈ context.catalog.versionReferences,
        reference.2 ∈ context.catalog.versions.keys := by
  have missing : versionReferences.Accepts context ↔ missingVersions context.catalog = [] := by
    simp only [Accepts, versionReferences, Except.ok.injEq, exists_eq_left', List.mem_append,
      List.mem_map]
    constructor
    · intro mild
      rw [List.eq_nil_iff_forall_not_mem]
      intro key member
      exact mild _ (.inl ⟨key, member, rfl⟩) rfl
    · rintro none_missing finding (⟨key, member, rfl⟩ | ⟨key, _, rfl⟩)
      · simp [none_missing] at member
      · exact nofun
  rw [missing, missingVersions, List.filter_eq_nil_iff]
  simp only [mem_firstOccurrences, List.mem_map, Bool.not_eq_true', Bool.not_eq_false,
    Aliases.contains_eq_true_iff]
  constructor
  · intro declared reference member
    exact declared _ ⟨reference, member, rfl⟩
  · rintro declared key ⟨reference, member, rfl⟩
    exact declared reference member

theorem moduleFormat_accepts_iff :
    moduleFormat.Accepts context ↔
      ∀ entry ∈ context.catalog.libraries.toList, ∀ module, entry.2.module = some module →
        isModule module = true := by
  rw [accepts_iff_of_map rfl (fun _ => rfl), List.filter_eq_nil_iff]
  simp only [List.mem_filterMap, Bool.not_eq_true', Bool.not_eq_false]
  constructor
  · intro formed entry member module declared
    exact formed module ⟨entry, member, declared⟩
  · rintro formed module ⟨entry, member, declared⟩
    exact formed entry member module declared

theorem pluginIdFormat_accepts_iff :
    pluginIdFormat.Accepts context ↔
      ∀ entry ∈ context.catalog.plugins.toList, ∀ id, entry.2.id = some id →
        isPluginId id = true := by
  rw [accepts_iff_of_map rfl (fun _ => rfl), List.filter_eq_nil_iff]
  simp only [List.mem_filterMap, Bool.not_eq_true', Bool.not_eq_false]
  constructor
  · intro formed entry member id declared
    exact formed id ⟨entry, member, declared⟩
  · rintro formed id ⟨entry, member, declared⟩
    exact formed entry member id declared

theorem criticalDependencies_accepts : criticalDependencies.Accepts context := by
  obtain ⟨findings, found⟩ := criticalDependencies_gives context
  refine ⟨findings, found, ?_⟩
  simp only [criticalDependencies] at found
  split at found
  · cases found
    simp
  · cases found
    simp

theorem versionCompatibility_accepts_iff :
    versionCompatibility.Accepts context ↔
      ¬(context.catalog.versions.get? "agp" = some "8.11.1" ∧
        ∃ kotlin, context.catalog.versions.get? "kotlin" = some kotlin ∧
          (IsOlder kotlin [1, 9, 0] ∨ HasLongNumber kotlin)) := by
  simp only [Accepts, versionCompatibility, requirements, brokenRequirements, isBroken_eq]
  by_cases tool : context.catalog.versions.get? "agp" = some "8.11.1"
  · cases required : context.catalog.versions.get? "kotlin" with
    | none => simp [tool]
    | some kotlin =>
        simp only [tool, if_true, true_and, Option.some.injEq, exists_eq_left',
          ← isBelow_eq_false_iff]
        cases isBelow kotlin "1.9.0" with
        | error broken => simp
        | ok below => cases below <;> simp [Except.map, Requirement.finding]
  · simp [tool]

theorem bundleReferences_accepts_iff :
    bundleReferences.Accepts context ↔
      ∀ bundle ∈ context.catalog.bundles.toList, ∀ member ∈ bundle.2,
        member ∈ context.catalog.libraries.keys := by
  rw [accepts_iff_of_map rfl (fun _ => rfl), strayMembers, List.flatMap_eq_nil_iff]
  simp only [List.map_eq_nil_iff, List.filter_eq_nil_iff, Bool.not_eq_true', Bool.not_eq_false,
    Aliases.contains_eq_true_iff]

theorem vulnerableVersions_accepts : vulnerableVersions.Accepts context :=
  accepts_of_map rfl (fun _ => nofun)

end Rule

/-! ## What a valid catalog is -/

/-- What is demanded of a catalog and of the text that declares it. -/
structure MeetsDemands (text : String) (catalog : Catalog) : Prop where
  /-- The headers of the required sections stand somewhere in the text. -/
  headers : ∀ header ∈ ["[versions]", "[libraries]"], ∃ before after,
    text.toList = before ++ header.toList ++ after
  /-- Declared versions have one of the forms of a version. -/
  versions : ∀ entry ∈ catalog.versions.toList, isVersion entry.2 = true
  /-- Nothing is declared again. -/
  repeats : catalog.repeats = []
  /-- The version that a library refers to is declared. -/
  libraryReferences : ∀ entry ∈ catalog.libraries.toList, ∀ reference,
    entry.2.versionRef = some reference → reference ∈ catalog.versions.keys
  /-- The version that a plugin refers to is declared. -/
  pluginReferences : ∀ entry ∈ catalog.plugins.toList, ∀ reference,
    entry.2.versionRef = some reference → reference ∈ catalog.versions.keys
  /-- Modules are a group and an artifact. -/
  modules : ∀ entry ∈ catalog.libraries.toList, ∀ module,
    entry.2.module = some module → isModule module = true
  /-- Identifiers of plugins have a dot inside. -/
  pluginIds : ∀ entry ∈ catalog.plugins.toList, ∀ id,
    entry.2.id = some id → isPluginId id = true
  /-- The members of bundles are declared libraries. -/
  bundles : ∀ bundle ∈ catalog.bundles.toList, ∀ member ∈ bundle.2,
    member ∈ catalog.libraries.keys
  /-- The required version is neither too old for the tool nor too long to be compared. -/
  compatible : ¬(catalog.versions.get? "agp" = some "8.11.1" ∧
    ∃ kotlin, catalog.versions.get? "kotlin" = some kotlin ∧
      (Rule.IsOlder kotlin [1, 9, 0] ∨ Rule.HasLongNumber kotlin))

/-- The references of a catalog are those of its libraries and of its plugins. -/
theorem Catalog.forall_mem_versionReferences_iff {catalog : Catalog} {known : String → Prop} :
    (∀ reference ∈ catalog.versionReferences, known reference.2) ↔
      (∀ entry ∈ catalog.libraries.toList, ∀ reference,
        entry.2.versionRef = some reference → known reference) ∧
      ∀ entry ∈ catalog.plugins.toList, ∀ reference,
        entry.2.versionRef = some reference → known reference := by
  simp only [versionReferences, List.mem_append, List.mem_filterMap, Option.map_eq_some_iff]
  constructor
  · intro all
    constructor
    · intro entry member reference refers
      exact all (entry.1, reference) (.inl ⟨entry, member, reference, refers, rfl⟩)
    · intro entry member reference refers
      exact all (entry.1, reference) (.inr ⟨entry, member, reference, refers, rfl⟩)
  · rintro ⟨libraries, plugins⟩ reference (⟨entry, member, key, refers, rfl⟩ |
      ⟨entry, member, key, refers, rfl⟩)
    · exact libraries entry member key refers
    · exact plugins entry member key refers

/-- The standard rules accept exactly the catalogs that meet the demands. -/
theorem standard_accept_iff {text : String} {document : Document} :
    (∀ rule ∈ Rule.standard, rule.Accepts (.ofDocument text document .namespaced)) ↔
      MeetsDemands text (Catalog.ofDocument document) := by
  have headers : (∀ kind ∈ Section.required, ∃ before after,
      text.toList = before ++ s!"[{kind.name}]".toList ++ after) ↔
      ∀ header ∈ ["[versions]", "[libraries]"], ∃ before after,
        text.toList = before ++ header.toList ++ after := by
    have versions : s!"[{Section.versions.name}]" = "[versions]" := rfl
    have libraries : s!"[{Section.libraries.name}]" = "[libraries]" := rfl
    simp only [Section.required, List.forall_mem_cons, versions, libraries]
    simp only [List.not_mem_nil, false_implies, implies_true]
  simp only [Rule.standard, List.forall_mem_cons]
  constructor
  · rintro ⟨mentioned, _, formed, single, referenced, modules, ids, _, compatible, members, _, _⟩
    have references := Catalog.forall_mem_versionReferences_iff.1
      (Rule.versionReferences_accepts_iff.1 referenced)
    have unrepeated := Rule.duplicateKeys_accepts_iff.1 single
    exact
      { headers := headers.1 (Rule.requiredSections_accepts_iff.1 mentioned)
        versions := Rule.versionFormat_accepts_iff.1 formed
        repeats := List.map_eq_nil_iff.1 unrepeated
        libraryReferences := references.1
        pluginReferences := references.2
        modules := Rule.moduleFormat_accepts_iff.1 modules
        pluginIds := Rule.pluginIdFormat_accepts_iff.1 ids
        bundles := Rule.bundleReferences_accepts_iff.1 members
        compatible := Rule.versionCompatibility_accepts_iff.1 compatible }
  · intro demands
    have references := Catalog.forall_mem_versionReferences_iff.2
      ⟨demands.libraryReferences, demands.pluginReferences⟩
    refine ⟨?_, Rule.emptySections_accepts, ?_, ?_, ?_, ?_, ?_,
      Rule.criticalDependencies_accepts, ?_, ?_, Rule.vulnerableVersions_accepts, by simp⟩
    · exact Rule.requiredSections_accepts_iff.2 (headers.2 demands.headers)
    · exact Rule.versionFormat_accepts_iff.2 demands.versions
    · exact Rule.duplicateKeys_accepts_iff.2 (List.map_eq_nil_iff.2 demands.repeats)
    · exact Rule.versionReferences_accepts_iff.2 references
    · exact Rule.moduleFormat_accepts_iff.2 demands.modules
    · exact Rule.pluginIdFormat_accepts_iff.2 demands.pluginIds
    · exact Rule.versionCompatibility_accepts_iff.2 demands.compatible
    · exact Rule.bundleReferences_accepts_iff.2 demands.bundles

/-- A text is a valid catalog exactly when it is not blank and makes a document whose catalog meets
the demands. -/
theorem checkText_isValid_iff [CallStack] {time : Timestamp} {text : String} :
    (checkText Rule.standard .namespaced time text).isValid = true ↔
      strip text.toList ≠ [] ∧ ∃ document, Document.ofText text = .ok document ∧
        MeetsDemands text (Catalog.ofDocument document) := by
  obtain ⟨ending, outcome⟩ := exists_outcome Rule.standard .namespaced time text
  rw [checkText_eq_ofFindings, Report.isValid_ofFindings_iff]
  simp only [← standard_accept_iff, ← gives_no_error_iff]
  generalize (checkText Rule.standard .namespaced time text).findings = findings at outcome
  constructor
  · intro mild
    cases outcome with
    | blank => simp at mild
    | malformed => simp at mild
    | exhausted => simp at mild
    | interrupted => simp at mild
    | completed something readable given =>
        exact ⟨something, _, readable, _, given, mild⟩
  · rintro ⟨something, document, readable, accepted, given, mild⟩
    obtain ⟨_, rfl⟩ := outcome.unique (.completed something readable given)
    exact mild

end VersionCatalog
