import VersionCatalog.Occurrence
import VersionCatalog.Rule.Basic
import VersionCatalog.Text.Assignment
import VersionCatalog.Version.Grammar

/-!
# Rules on versions and keys

Declared versions have one of the forms of a version, and no key is declared again. Both rules look
at the sections of the catalog or, in the scope of the document, at every assignment in the text.
-/

namespace VersionCatalog.Rule

/-- The keys and texts that a version is expected for. -/
def versionTexts (context : RuleContext) : List (String × String) :=
  match context.scope with
  | .namespaced => context.catalog.versions.toList
  | .document =>
      (Text.quotedAssignments context.text).map fun (key, value) =>
        (String.ofList key, String.ofList value)

/-- The keys that are declared again, one for every further declaration. -/
def repeatedKeys (context : RuleContext) : List String :=
  match context.scope with
  | .namespaced => context.catalog.repeats.map Repeat.key
  | .document => laterOccurrences ((Text.assignedWords context.text).map String.ofList)

/-- Declared versions have one of the forms of a version. -/
def versionFormat : Rule where
  name := "version_format"
  severity := .error
  description := "Verify version strings use a recognized format"
  check context :=
    let wrong := (versionTexts context).filter fun (_, version) => !isVersion version
    .ok (wrong.map fun (key, version) =>
      { rule := "version_format"
        severity := .error
        message := s!"Invalid version format: {version} for key {key}"
        hint := some
          "Use MAJOR[.MINOR[.PATCH]][-pre][+build], MAJOR.MINOR.+ or a range like [1.0,2.0)" })

/-- No key is declared again. -/
def duplicateKeys : Rule where
  name := "duplicate_keys"
  severity := .error
  description := "Verify keys are declared only once"
  check context :=
    .ok ((repeatedKeys context).map fun key =>
      { rule := "duplicate_keys"
        severity := .error
        message := s!"Duplicate key: {key}"
        hint := some "Remove or rename the repeated declaration; the first one is used" })

end VersionCatalog.Rule
