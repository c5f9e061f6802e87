import VersionCatalog.Occurrence
import VersionCatalog.Rule.Basic
import VersionCatalog.Text.Fields
import VersionCatalog.Version.Release

/-!
# Rules on known dependencies

Three tables tell what is known about dependencies: which libraries are for testing, which versions
are vulnerable, and which versions of two tools do not go together.
-/

namespace VersionCatalog.Rule

open Version

/-- Parts of the names of well-known testing libraries. -/
def testingKeywords : List String := ["junit", "mockk", "androidx.test", "espresso"]

/-- The versions with known vulnerabilities, by dependency. -/
def vulnerableReleases : List (String × List String) :=
  [("junit", ["4.10", "4.11", "4.12"])]

/-- A version of a tool that requires a least version of another. -/
structure Requirement where
  /-- The alias of the tool's version. -/
  tool : String
  toolLabel : String
  toolVersion : String
  /-- The alias of the required version. -/
  required : String
  requiredLabel : String
  /-- The least version that goes with the tool. -/
  minimum : String
deriving DecidableEq, Repr

/-- The known requirements. -/
def requirements : List Requirement :=
  [⟨"agp", "AGP", "8.11.1", "kotlin", "Kotlin", "1.9.0"⟩]

/-- Some testing library is mentioned in the text. -/
def criticalDependencies : Rule where
  name := "critical_dependencies"
  severity := .warning
  description := "Check that a testing library is declared"
  check context :=
    if testingKeywords.any fun keyword => Text.mentions keyword.toList context.text then .ok []
    else
      let keywords := ", ".intercalate testingKeywords
      .ok [{ rule := "critical_dependencies"
             severity := .warning
             message := "Missing critical dependency: No testing dependencies found"
             hint := some s!"Declare one of: {keywords}" }]

/-- Reads a release, a number that is too long being a reason to break off. -/
def releaseOf (version : String) : Except Interruption (Option (List Int)) :=
  match release? version with
  | .error refused => .error ⟨refused.message⟩
  | .ok numbers => .ok (numbers.map (·.map Int.ofNat))

/-- Whether one release is below another, texts without a release being passed over. -/
def isBelow (actual minimum : String) : Except Interruption Bool :=
  match releaseOf actual, releaseOf minimum with
  | .error broken, _ => .error broken
  | .ok _, .error broken => .error broken
  | .ok (some actual), .ok (some minimum) => .ok (compareReleases actual minimum == .lt)
  | .ok _, .ok _ => .ok false

/-- Whether a catalog declares the tool's version together with a version below the least. -/
def Requirement.isBroken (requirement : Requirement) (catalog : Catalog) :
    Except Interruption Bool :=
  match catalog.versions.get? requirement.tool, catalog.versions.get? requirement.required with
  | some tool, some required =>
      if tool = requirement.toolVersion then isBelow required requirement.minimum else .ok false
  | _, _ => .ok false

/-- The finding for a requirement that is not met. -/
def Requirement.finding (requirement : Requirement) : Finding where
  rule := "version_compatibility"
  severity := .error
  message :=
    s!"Version incompatibility: {requirement.toolLabel} {requirement.toolVersion} " ++
      s!"requires {requirement.requiredLabel} {requirement.minimum}+"
  hint := some s!"Upgrade '{requirement.required}' to {requirement.minimum} or later"

/-- The findings for the requirements that are not met, up to the first that breaks off. -/
def brokenRequirements (catalog : Catalog) :
    List Requirement → Except Interruption (List Finding)
  | [] => .ok []
  | requirement :: others =>
      match requirement.isBroken catalog with
      | .error broken => .error broken
      | .ok true => (brokenRequirements catalog others).map (requirement.finding :: ·)
      | .ok false => brokenRequirements catalog others

/-- The declared versions go together. -/
def versionCompatibility : Rule where
  name := "version_compatibility"
  severity := .error
  description := "Detect known-incompatible version pairs"
  check context := brokenRequirements context.catalog requirements

/-- Whether a library's coordinate names a dependency, as its group or as its artifact. -/
def isNamedIn (dependency : String) (library : Library) : Bool :=
  match library.coordinate? with
  | some coordinate => (Text.fields ':' coordinate.toList).contains dependency.toList
  | none => false

/-- The vulnerable versions of one dependency: the declared version of that alias, then those of the
libraries with that name. -/
def vulnerableUses (catalog : Catalog) (dependency : String) (bad : List String) :
    List (String × String) :=
  let declared := (catalog.versions.get? dependency).toList
  let used := catalog.libraries.toList.filterMap fun (_, library) =>
    if isNamedIn dependency library then catalog.libraryVersion? library else none
  ((declared ++ used).filter bad.contains).map (dependency, ·)

/-- No version with known vulnerabilities is declared or used. -/
def vulnerableVersions : Rule where
  name := "vulnerable_versions"
  severity := .warning
  description := "Warn about versions with known vulnerabilities"
  check context :=
    let uses := vulnerableReleases.flatMap fun (dependency, bad) =>
      vulnerableUses context.catalog dependency bad
    .ok ((firstOccurrences uses).map fun (dependency, version) =>
      { rule := "vulnerable_versions"
        severity := .warning
        message := s!"Potentially vulnerable version: {dependency} {version}"
        hint := some s!"Upgrade {dependency} past {version}" })

end VersionCatalog.Rule
