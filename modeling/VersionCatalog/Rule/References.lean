import VersionCatalog.Occurrence
import VersionCatalog.Rule.Basic

/-!
# Rules on references

References to versions and the members of bundles name what is declared, and every declared version
is referred to.
-/

namespace VersionCatalog.Rule

/-- The versions that are referred to but not declared, in the order of their first use. -/
def missingVersions (catalog : Catalog) : List String :=
  (firstOccurrences (catalog.versionReferences.map Prod.snd)).filter fun key =>
    !catalog.versions.contains key

/-- The versions that are declared but not referred to. -/
def unusedVersions (catalog : Catalog) : List String :=
  catalog.versions.keys.filter fun key =>
    !(catalog.versionReferences.map Prod.snd).contains key

/-- References name declared versions, and every declared version is referred to. -/
def versionReferences : Rule where
  name := "version_references"
  severity := .error
  description := "Verify version.ref targets exist in [versions]"
  check context :=
    let missing := (missingVersions context.catalog).map fun key =>
      { rule := "version_references"
        severity := .error
        message := s!"Missing version reference: {key}"
        hint := some s!"Declare '{key}' in [versions] or fix the reference" }
    let unused := (unusedVersions context.catalog).map fun key =>
      { rule := "version_references"
        severity := .warning
        message := s!"Unreferenced version: {key}"
        hint := some "Remove the version or reference it with version.ref" }
    .ok (missing ++ unused)

/-- The members of bundles that are not the aliases of libraries, with their bundles. -/
def strayMembers (catalog : Catalog) : List (String × String) :=
  catalog.bundles.toList.flatMap fun (bundle, members) =>
    (members.filter fun member => !catalog.libraries.contains member).map (bundle, ·)

/-- The members of bundles are the aliases of libraries; a bundle cannot contain another. -/
def bundleReferences : Rule where
  name := "bundle_references"
  severity := .error
  description := "Verify bundle members name declared libraries"
  check context :=
    let catalog := context.catalog
    .ok ((strayMembers catalog).map fun (bundle, member) =>
      { rule := "bundle_references"
        severity := .error
        message := s!"Invalid bundle reference: {member} in bundle {bundle}"
        hint := some <|
          if catalog.bundles.contains member then
            "Bundles cannot contain other bundles; list the libraries instead"
          else s!"Declare '{member}' in [libraries] or remove it from the bundle" })

end VersionCatalog.Rule
