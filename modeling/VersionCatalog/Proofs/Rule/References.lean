import VersionCatalog.Proofs.Catalog.Contents
import VersionCatalog.Proofs.Check.Validity

/-!
# What is reported on references

A version that is referred to but not declared is reported once, however many libraries and plugins
refer to it, and a declared version is reported when none of them does. `versionReferences_findings`
says in which order, and that nothing is reported as an error exactly when every reference amounts
to a version.
-/

namespace VersionCatalog

namespace Catalog

/-- The aliases of versions that libraries, and then plugins, refer to. -/
def usedVersions (catalog : Catalog) : List String :=
  (catalog.libraries.toList.filterMap fun entry => entry.2.versionRef) ++
    catalog.plugins.toList.filterMap fun entry => entry.2.versionRef

theorem map_snd_versionReferences (catalog : Catalog) :
    catalog.versionReferences.map Prod.snd = catalog.usedVersions := by
  simp only [versionReferences, usedVersions, List.map_append, List.map_filterMap, Option.map_map,
    Function.comp_def, Option.map_id']

/-- Every library and every plugin that refers to a version has one. -/
structure ResolvesReferences (catalog : Catalog) : Prop where
  libraries : ∀ entry ∈ catalog.libraries.toList, entry.2.versionRef ≠ none →
    catalog.libraryVersion? entry.2 ≠ none
  plugins : ∀ entry ∈ catalog.plugins.toList, entry.2.versionRef ≠ none →
    catalog.pluginVersion? entry.2 ≠ none

/-- A reference amounts to a version when that version is declared. -/
theorem resolve?_ne_none_iff {catalog : Catalog} {reference inlineVersion : Option String} :
    (reference ≠ none → catalog.resolve? reference inlineVersion ≠ none) ↔
      ∀ key, reference = some key → key ∈ catalog.versions.keys := by
  cases reference with
  | none => simp
  | some key => simp [resolve?, ← Aliases.isSome_get?_iff, Option.isSome_iff_ne_none]

theorem resolvesReferences_iff {catalog : Catalog} :
    catalog.ResolvesReferences ↔
      ∀ reference ∈ catalog.versionReferences, reference.2 ∈ catalog.versions.keys := by
  rw [forall_mem_versionReferences_iff]
  constructor
  · intro resolves
    exact ⟨fun entry member => resolve?_ne_none_iff.1 (resolves.libraries entry member),
      fun entry member => resolve?_ne_none_iff.1 (resolves.plugins entry member)⟩
  · rintro ⟨libraries, plugins⟩
    exact
      { libraries := fun entry member => resolve?_ne_none_iff.2 (libraries entry member)
        plugins := fun entry member => resolve?_ne_none_iff.2 (plugins entry member) }

end Catalog

namespace Rule

/-- The error for a version that is referred to but not declared. -/
def missingVersion (key : String) : Finding where
  rule := "version_references"
  severity := .error
  message := "Missing version reference: " ++ key
  hint := some ("Declare '" ++ key ++ "' in [versions] or fix the reference")

/-- The warning for a version that is declared but not referred to. -/
def unusedVersion (key : String) : Finding where
  rule := "version_references"
  severity := .warning
  message := "Unreferenced version: " ++ key
  hint := some "Remove the version or reference it with version.ref"

theorem missingVersions_inFirstOrder (catalog : Catalog) :
    InFirstOrder (· ∉ catalog.versions.keys) catalog.usedVersions (missingVersions catalog) := by
  rw [missingVersions, Catalog.map_snd_versionReferences]
  refine inFirstOrder_filter (fun key => ?_) _
  rw [Bool.not_eq_true', ← Bool.not_eq_true, Aliases.contains_eq_true_iff]

/-- Aliases are distinct, so that every declared version is looked at once. -/
theorem unusedVersions_inFirstOrder (catalog : Catalog) :
    InFirstOrder (· ∉ catalog.usedVersions) catalog.versions.keys (unusedVersions catalog) := by
  have distinct : catalog.versions.keys.Nodup := catalog.versions.nodup
  have kept : InFirstOrder (· ∉ catalog.usedVersions) catalog.versions.keys
      ((firstOccurrences catalog.versions.keys).filter fun key =>
        !catalog.usedVersions.contains key) :=
    inFirstOrder_filter (fun key => by simp) _
  rw [firstOccurrences_of_nodup distinct] at kept
  rwa [unusedVersions, Catalog.map_snd_versionReferences]

/-- The findings on references are an error for every alias that is referred to and not declared, in
the order of first use, and then a warning for every declared version without references. There is
no error exactly when all references amount to versions, and no alias is reported twice. -/
theorem versionReferences_findings (context : RuleContext) :
    ∃ missing unused : List String,
      versionReferences.check context =
        .ok (missing.map missingVersion ++ unused.map unusedVersion) ∧
      InFirstOrder (· ∉ context.catalog.versions.keys) context.catalog.usedVersions missing ∧
      InFirstOrder (· ∉ context.catalog.usedVersions) context.catalog.versions.keys unused ∧
      ((∀ finding ∈ missing.map missingVersion ++ unused.map unusedVersion,
          finding.severity ≠ .error) ↔ context.catalog.ResolvesReferences) ∧
      missing.Disjoint unused := by
  have checked : versionReferences.check context =
      .ok ((missingVersions context.catalog).map missingVersion ++
        (unusedVersions context.catalog).map unusedVersion) := rfl
  have missing := missingVersions_inFirstOrder context.catalog
  have unused := unusedVersions_inFirstOrder context.catalog
  refine ⟨_, _, checked, missing, unused, ?_, ?_⟩
  · rw [Catalog.resolvesReferences_iff, ← versionReferences_accepts_iff]
    simp only [Accepts, checked, Except.ok.injEq, exists_eq_left']
  · intro key absent idle
    exact ((unused.mem_iff key).1 idle).2 ((missing.mem_iff key).1 absent).1

end Rule

end VersionCatalog
