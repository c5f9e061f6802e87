import VersionCatalog.Rule.Advisories
import VersionCatalog.Rule.Coordinates
import VersionCatalog.Rule.Keys
import VersionCatalog.Rule.References
import VersionCatalog.Rule.Sections

/-!
# The standard rules

The rules that a check applies unless others are given, in the order of their findings.
-/

namespace VersionCatalog.Rule

/-- The standard rules. -/
def standard : List Rule :=
  [requiredSections, emptySections, versionFormat, duplicateKeys, versionReferences, moduleFormat,
   pluginIdFormat, criticalDependencies, versionCompatibility, bundleReferences,
   vulnerableVersions]

/-- The standard rule of that name. -/
def ofName? (name : String) : Option Rule :=
  standard.find? fun rule => rule.name == name

end VersionCatalog.Rule
