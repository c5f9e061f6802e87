import Mathlib.Data.List.Flatten
import VersionCatalog.Proofs.Occurrence
import VersionCatalog.Rule.Advisories

/-!
# What is reported on vulnerable versions

A vulnerable version of a dependency is reported once, whether it is declared under that alias or
used by libraries, and however many of them use it. `vulnerableVersions_findings` says which
versions are reported and that the declared one comes first, the others in the order of the
libraries.
-/

namespace VersionCatalog

/-- A text is one of the parts of another that stand between its colons. -/
def IsPart (part text : String) : Prop :=
  ∃ parts : List (List Char), (∀ piece ∈ parts, ':' ∉ piece) ∧
    [':'].intercalate parts = text.toList ∧ part.toList ∈ parts

theorem isPart_iff_mem_fields {part text : String} :
    IsPart part text ↔ part.toList ∈ Text.fields ':' text.toList := by
  constructor
  · rintro ⟨parts, free, joined, member⟩
    rwa [← joined, Text.fields_intercalate (List.ne_nil_of_mem member) free]
  · intro member
    exact ⟨_, fun _ => Text.separator_notMem_of_mem_fields, Text.intercalate_fields _ _, member⟩

namespace Catalog

/-- A library that is named after the dependency, by its group or its artifact, has the version. -/
def UsesVersion (catalog : Catalog) (dependency version : String) (library : Library) : Prop :=
  (∃ coordinate, library.coordinate? = some coordinate ∧ IsPart dependency coordinate) ∧
    catalog.libraryVersion? library = some version

/-- The version is declared under the alias of the dependency, or a library uses it. -/
def HasVersion (catalog : Catalog) (dependency version : String) : Prop :=
  catalog.versions.get? dependency = some version ∨
    ∃ entry ∈ catalog.libraries.toList, catalog.UsesVersion dependency version entry.2

/-- One version of a dependency is found before another: it is the declared one, or the libraries up
to one that uses it do not use the other, which is not declared either. -/
def FindsFirst (catalog : Catalog) (dependency version other : String) : Prop :=
  catalog.versions.get? dependency ≠ some other ∧
    (catalog.versions.get? dependency = some version ∨
      ∃ before entry after, catalog.libraries.toList = before ++ entry :: after ∧
        catalog.UsesVersion dependency version entry.2 ∧
        ∀ earlier ∈ before ++ [entry], ¬catalog.UsesVersion dependency other earlier.2)

end Catalog

namespace Rule

variable {catalog : Catalog} {dependency version other : String} {bad : List String}

theorem isNamedIn_eq_true_iff {library : Library} :
    isNamedIn dependency library = true ↔
      ∃ coordinate, library.coordinate? = some coordinate ∧ IsPart dependency coordinate := by
  unfold isNamedIn
  cases library.coordinate? with
  | none => simp
  | some coordinate => simp [isPart_iff_mem_fields]

/-- The version in which a library counts as a use of a dependency. -/
def usedVersion? (catalog : Catalog) (dependency : String) (entry : String × Library) :
    Option String :=
  if isNamedIn dependency entry.2 then catalog.libraryVersion? entry.2 else none

theorem usedVersion?_eq_some_iff {entry : String × Library} :
    usedVersion? catalog dependency entry = some version ↔
      catalog.UsesVersion dependency version entry.2 := by
  rw [usedVersion?, Catalog.UsesVersion, ← isNamedIn_eq_true_iff]
  split
  · next named => simp [named]
  · next unnamed => simp [unnamed]

/-- Where versions of a dependency may be found: its alias, and then every library. -/
def versionSources (catalog : Catalog) (dependency : String) : List (Option String) :=
  catalog.versions.get? dependency ::
    catalog.libraries.toList.map (usedVersion? catalog dependency)

theorem some_mem_versionSources_iff :
    some version ∈ versionSources catalog dependency ↔ catalog.HasVersion dependency version := by
  simp only [versionSources, List.mem_cons, List.mem_map, Catalog.HasVersion,
    ← usedVersion?_eq_some_iff, eq_comm]

theorem vulnerableUses_eq (catalog : Catalog) (dependency : String) (bad : List String) :
    vulnerableUses catalog dependency bad =
      (versionSources catalog dependency).filterMap fun source =>
        (source.filter bad.contains).map (dependency, ·) := by
  have whole : (versionSources catalog dependency).filterMap id =
      (catalog.versions.get? dependency).toList ++
        catalog.libraries.toList.filterMap (usedVersion? catalog dependency) := by
    rw [versionSources, List.filterMap_cons, List.filterMap_map]
    cases catalog.versions.get? dependency <;> rfl
  have uses : vulnerableUses catalog dependency bad =
      (((versionSources catalog dependency).filterMap id).filter bad.contains).map
        (dependency, ·) := by
    rw [whole]
    rfl
  rw [uses, List.filter_filterMap, List.map_filterMap]
  rfl

theorem use_of_source_iff {source : Option String} {use : String × String} :
    (source.filter bad.contains).map (dependency, ·) = some use ↔
      use.1 = dependency ∧ use.2 ∈ bad ∧ source = some use.2 := by
  obtain ⟨name, version⟩ := use
  simp only [Option.map_eq_some_iff, Option.filter_eq_some_iff, List.contains_iff_mem,
    Prod.mk.injEq]
  constructor
  · rintro ⟨_, ⟨rfl, listed⟩, rfl, rfl⟩
    exact ⟨rfl, listed, rfl⟩
  · rintro ⟨rfl, listed, rfl⟩
    exact ⟨version, ⟨rfl, listed⟩, rfl, rfl⟩

theorem mem_vulnerableUses_iff {use : String × String} :
    use ∈ vulnerableUses catalog dependency bad ↔
      use.1 = dependency ∧ use.2 ∈ bad ∧ catalog.HasVersion dependency use.2 := by
  rw [vulnerableUses_eq, List.mem_filterMap, ← some_mem_versionSources_iff]
  simp only [use_of_source_iff]
  constructor
  · rintro ⟨_, member, named, listed, rfl⟩
    exact ⟨named, listed, member⟩
  · rintro ⟨named, listed, member⟩
    exact ⟨_, member, named, listed, rfl⟩

/-- What is found in a source is found before what no source up to it has. -/
theorem findsFirst_of_versionSources {passed others : List (Option String)}
    (whole : versionSources catalog dependency = passed ++ some version :: others)
    (differs : version ≠ other) (later : some other ∉ passed) :
    catalog.FindsFirst dependency version other := by
  rw [versionSources] at whole
  cases passed with
  | nil =>
      obtain ⟨declared, -⟩ := List.cons.inj whole
      exact ⟨by simpa [declared] using differs, .inl declared⟩
  | cons first passed =>
      obtain ⟨rfl, used⟩ := List.cons.inj whole
      obtain ⟨absent, later⟩ := not_or.1 (List.mem_cons.not.1 later)
      obtain ⟨before, rest, split, rfl, tail⟩ := List.map_eq_append_iff.1 used
      obtain ⟨entry, after, rfl, found, -⟩ := List.map_eq_cons_iff.1 tail
      refine ⟨Ne.symm absent, .inr ⟨before, entry, after, split,
        usedVersion?_eq_some_iff.1 found, ?_⟩⟩
      rw [List.forall_mem_append, List.forall_mem_singleton]
      constructor
      · intro earlier member uses
        exact later (List.mem_map.2 ⟨earlier, member, usedVersion?_eq_some_iff.2 uses⟩)
      · intro uses
        exact differs (Option.some.inj (found.symm.trans (usedVersion?_eq_some_iff.2 uses)))

/-- The uses of a dependency are listed in the order in which its versions are found. -/
theorem findsFirst_of_vulnerableUses {before after : List (String × String)}
    (split : vulnerableUses catalog dependency bad = before ++ (dependency, version) :: after)
    (listed : other ∈ bad) (differs : version ≠ other) (later : (dependency, other) ∉ before) :
    catalog.FindsFirst dependency version other := by
  rw [vulnerableUses_eq] at split
  obtain ⟨front, back, whole, rfl, rest⟩ := List.filterMap_eq_append_iff.1 split
  obtain ⟨passed, source, others, rfl, idle, used, -⟩ := List.filterMap_eq_cons_iff.1 rest
  obtain ⟨-, -, rfl⟩ := use_of_source_iff.1 used
  have use : ((some other).filter bad.contains).map (dependency, ·) = some (dependency, other) :=
    use_of_source_iff.2 ⟨rfl, listed, rfl⟩
  rw [← List.append_assoc] at whole
  refine findsFirst_of_versionSources whole differs ?_
  rw [List.mem_append]
  rintro (member | member)
  · exact later (List.mem_filterMap.2 ⟨_, member, use⟩)
  · exact absurd ((idle _ member).symm.trans use) nofun

/-! ## All dependencies -/

/-- The uses of the dependencies in a table. -/
def usesIn (catalog : Catalog) (table : List (String × List String)) : List (String × String) :=
  table.flatMap fun row => vulnerableUses catalog row.1 row.2

theorem mem_usesIn_iff {table : List (String × List String)} {use : String × String} :
    use ∈ usesIn catalog table ↔
      (∃ bad, (use.1, bad) ∈ table ∧ use.2 ∈ bad) ∧ catalog.HasVersion use.1 use.2 := by
  simp only [usesIn, List.mem_flatMap, mem_vulnerableUses_iff]
  constructor
  · rintro ⟨⟨_, bad⟩, member, rfl, listed, had⟩
    exact ⟨⟨bad, member, listed⟩, had⟩
  · rintro ⟨⟨bad, member, listed⟩, had⟩
    exact ⟨(use.1, bad), member, rfl, listed, had⟩

theorem filter_usesIn_of_notMem {table : List (String × List String)}
    (absent : dependency ∉ table.map Prod.fst) :
    (usesIn catalog table).filter (·.1 = dependency) = [] := by
  refine List.filter_eq_nil_iff.2 fun use member named => ?_
  obtain ⟨⟨bad, row, -⟩, -⟩ := mem_usesIn_iff.1 member
  exact absent (List.mem_map.2 ⟨_, row, of_decide_eq_true named⟩)

/-- In a table without repeated names, the uses of a dependency are those of its row. -/
theorem filter_usesIn {table : List (String × List String)} (distinct : (table.map Prod.fst).Nodup)
    (member : (dependency, bad) ∈ table) :
    (usesIn catalog table).filter (·.1 = dependency) = vulnerableUses catalog dependency bad := by
  obtain ⟨front, back, rfl⟩ := List.append_of_mem member
  rw [List.map_append, List.map_cons, List.nodup_append, List.nodup_cons] at distinct
  obtain ⟨-, ⟨after, -⟩, apart⟩ := distinct
  have before : dependency ∉ front.map Prod.fst := fun inside =>
    apart dependency inside dependency List.mem_cons_self rfl
  have kept : (vulnerableUses catalog dependency bad).filter (·.1 = dependency) =
      vulnerableUses catalog dependency bad :=
    List.filter_eq_self.2 fun use inside => decide_eq_true (mem_vulnerableUses_iff.1 inside).1
  have parts : usesIn catalog (front ++ (dependency, bad) :: back) =
      usesIn catalog front ++ (vulnerableUses catalog dependency bad ++ usesIn catalog back) := by
    rw [usesIn, List.flatMap_append, List.flatMap_cons]
    rfl
  rw [parts, List.filter_append, List.filter_append, kept, filter_usesIn_of_notMem before,
    filter_usesIn_of_notMem after, List.nil_append, List.append_nil]

/-- The uses of each dependency in a table are listed in the order in which its versions are found.
-/
theorem findsFirst_of_usesIn {table : List (String × List String)} {left right : String × String}
    {before after : List (String × String)} (distinct : (table.map Prod.fst).Nodup)
    (split : usesIn catalog table = before ++ left :: after) (member : right ∈ usesIn catalog table)
    (same : left.1 = right.1) (differs : left ≠ right) (later : right ∉ before) :
    catalog.FindsFirst left.1 left.2 right.2 := by
  obtain ⟨dependency, version⟩ := left
  obtain ⟨_, other⟩ := right
  obtain rfl : dependency = _ := same
  obtain ⟨⟨bad, row, listed⟩, -⟩ := mem_usesIn_iff.1 member
  have uses := @filter_usesIn catalog _ _ _ distinct row
  rw [split, List.filter_append, List.filter_cons_of_pos (by simp)] at uses
  refine findsFirst_of_vulnerableUses uses.symm listed
    (fun equal => differs (Prod.ext rfl equal)) ?_
  exact fun inside => later (List.mem_of_mem_filter inside)

/-- The warning for a vulnerable version of a dependency. -/
def vulnerableVersion (use : String × String) : Finding where
  rule := "vulnerable_versions"
  severity := .warning
  message := "Potentially vulnerable version: " ++ use.1 ++ " " ++ use.2
  hint := some ("Upgrade " ++ use.1 ++ " past " ++ use.2)

/-- The findings on vulnerable versions are a warning for every vulnerable version of a dependency
that is declared under its alias or used by a library that is named after it. No version of a
dependency is reported twice, and they are reported in the order in which they are found: the
declared one, and then those of the libraries in order. -/
theorem vulnerableVersions_findings (context : RuleContext) :
    ∃ uses : List (String × String),
      vulnerableVersions.check context = .ok (uses.map vulnerableVersion) ∧
      uses.Nodup ∧
      (∀ dependency version, (dependency, version) ∈ uses ↔
        (∃ bad, (dependency, bad) ∈ vulnerableReleases ∧ version ∈ bad) ∧
          context.catalog.HasVersion dependency version) ∧
      uses.Pairwise fun left right =>
        left.1 = right.1 → context.catalog.FindsFirst left.1 left.2 right.2 := by
  have checked : vulnerableVersions.check context =
      .ok ((firstOccurrences (usesIn context.catalog vulnerableReleases)).map
        vulnerableVersion) := by
    rfl
  refine ⟨_, checked, nodup_firstOccurrences _, fun dependency version => ?_, ?_⟩
  · rw [mem_firstOccurrences, mem_usesIn_iff]
  · refine (pairwise_firstOccurrences_split _).imp_of_mem fun _ right earlier same => ?_
    obtain ⟨differs, before, after, split, later⟩ := earlier
    exact findsFirst_of_usesIn (by decide) split (mem_firstOccurrences.1 right) same differs later

end Rule

end VersionCatalog
