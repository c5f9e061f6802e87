import VersionCatalog.Proofs.Check.Interruption
import VersionCatalog.Proofs.Version.FormReleases
import VersionCatalog.Proofs.Version.ReleaseOrder

/-!
# Which releases of Kotlin are too old

The only known requirement asks for Kotlin 1.9.0 or later. Its verdict is reached by comparing whole
releases, and comes down to two numbers: the first one is zero, or it is one and the second is
absent or below nine. So nothing else that a version is written with can change the verdict, and a
lower release does not escape it.
-/

namespace VersionCatalog.Rule

open Text Version

/-! ## Releases below 1.9.0 -/

/-- A release that begins with zero, or with one and a second number below nine if there is one. -/
inductive IsBelowOneNine : List Nat → Prop where
  | zero {others : List Nat} : IsBelowOneNine (0 :: others)
  | one : IsBelowOneNine [1]
  | minor {second : Nat} {others : List Nat} (below : second < 9) :
      IsBelowOneNine (1 :: second :: others)

/-- Two releases have the same first and the same second number, an absent one being zero. -/
def BeginAlike (left right : List Nat) : Prop :=
  left.getD 0 0 = right.getD 0 0 ∧ left.getD 1 0 = right.getD 1 0

variable {values left right : List Nat}

theorem isBelowOneNine_iff (nonempty : values ≠ []) :
    IsBelowOneNine values ↔
      values.getD 0 0 = 0 ∨ values.getD 0 0 = 1 ∧ values.getD 1 0 < 9 := by
  constructor
  · intro below
    cases below with
    | zero => exact .inl rfl
    | one => exact .inr ⟨rfl, by decide⟩
    | minor below => exact .inr ⟨rfl, below⟩
  · intro begins
    match values, begins with
    | 0 :: _, _ => exact .zero
    | [_], .inr ⟨rfl, _⟩ => exact .one
    | _ :: _ :: _, .inr ⟨rfl, below⟩ => exact .minor below

theorem BeginAlike.isBelowOneNine_iff (alike : BeginAlike left right) (leftNonempty : left ≠ [])
    (rightNonempty : right ≠ []) : IsBelowOneNine left ↔ IsBelowOneNine right := by
  rw [Rule.isBelowOneNine_iff leftNonempty, Rule.isBelowOneNine_iff rightNonempty, alike.1, alike.2]

/-- The comparison with 1.9.0 is decided by the first two numbers: no third one is below zero. -/
theorem compareReleases_one_nine_iff (nonempty : values ≠ []) :
    compareReleases (values.map Int.ofNat) [1, 9, 0] = .lt ↔ IsBelowOneNine values := by
  rw [isBelowOneNine_iff nonempty]
  match values with
  | [first] =>
      have absent : compareReleases [] [9, 0] = .lt :=
        (compares_compareReleases _ _).eq_lt.2 (extended_lt_of_first_lt (by decide))
      simp only [List.map_cons, List.map_nil, compareReleases_cons_cons, Ordering.then_eq_lt,
        compare_lt_iff_lt, compare_eq_iff_eq, absent, and_true, Int.ofNat_eq_natCast,
        List.getD_cons_zero, List.getD_cons_succ, List.getD_nil]
      omega
  | first :: second :: others =>
      have third := compareReleases_zero_ne_lt others
      simp only [List.map_cons, compareReleases_cons_cons, Ordering.then_eq_lt, compare_lt_iff_lt,
        compare_eq_iff_eq, third, and_false, or_false, Int.ofNat_eq_natCast, List.getD_cons_zero,
        List.getD_cons_succ]
      omega

/-! ## The verdict -/

/-- The finding on a release of Kotlin that is too old. -/
def oldKotlin : Finding where
  rule := "version_compatibility"
  severity := .error
  message := "Version incompatibility: AGP 8.11.1 requires Kotlin 1.9.0+"
  hint := some "Upgrade 'kotlin' to 1.9.0 or later"

/-- The declared version of Kotlin has a release, with these numbers. -/
def DeclaresKotlin (catalog : Catalog) (numbers : List (List Char)) : Prop :=
  ∃ kotlin, catalog.versions.get? "kotlin" = some kotlin ∧ IsRelease (strip kotlin.toList) numbers

/-- No number in the release of Kotlin is too long to be read. -/
def HasReadableKotlin (catalog : Catalog) : Prop :=
  ∀ numbers, DeclaresKotlin catalog numbers → ∀ number ∈ numbers, number.length ≤ 4300

/-- The tool is declared together with a release of Kotlin that is too old for it. -/
def DeclaresOldKotlin (catalog : Catalog) : Prop :=
  catalog.versions.get? "agp" = some "8.11.1" ∧
    ∃ numbers, DeclaresKotlin catalog numbers ∧ IsBelowOneNine (numbers.map decimalValue)

variable {context other : RuleContext} {catalog : Catalog} {numbers others : List (List Char)}

theorem DeclaresKotlin.unique (declares : DeclaresKotlin catalog numbers)
    (again : DeclaresKotlin catalog others) : numbers = others := by
  obtain ⟨kotlin, found, release⟩ := declares
  obtain ⟨_, same, otherRelease⟩ := again
  cases Option.some.inj (found.symm.trans same)
  exact release.unique otherRelease

theorem DeclaresKotlin.declaresOldKotlin_iff (declares : DeclaresKotlin catalog numbers) :
    DeclaresOldKotlin catalog ↔
      catalog.versions.get? "agp" = some "8.11.1" ∧ IsBelowOneNine (numbers.map decimalValue) := by
  refine and_congr_right fun _ => ⟨?_, fun below => ⟨numbers, declares, below⟩⟩
  rintro ⟨others, again, below⟩
  rwa [declares.unique again]

theorem DeclaresKotlin.values_ne_nil (declares : DeclaresKotlin catalog numbers) :
    numbers.map decimalValue ≠ [] := by
  obtain ⟨_, _, release⟩ := declares
  simpa using release.nonempty

theorem DeclaresKotlin.readable (declares : DeclaresKotlin catalog numbers)
    (short : ∀ number ∈ numbers, number.length ≤ 4300) : HasReadableKotlin catalog := by
  intro others again
  rwa [← declares.unique again]

theorem isBelow_of_isRelease {kotlin : String} (release : IsRelease (strip kotlin.toList) numbers)
    (short : ∀ number ∈ numbers, number.length ≤ 4300) :
    isBelow kotlin "1.9.0" =
      .ok (compareReleases ((numbers.map decimalValue).map Int.ofNat) [1, 9, 0] == .lt) := by
  have read := release?_eq_some_iff.2 ⟨numbers, release, short, rfl⟩
  rw [funext numeral_eq_decimalValue] at read
  simp only [isBelow, releaseOf, read, release?_minimum]
  rfl

theorem isBelow_of_not_isRelease {kotlin : String}
    (unfit : ∀ numbers, ¬IsRelease (strip kotlin.toList) numbers) :
    isBelow kotlin "1.9.0" = .ok false := by
  simp only [isBelow, releaseOf, release?_of_not_isRelease unfit, release?_minimum]
  rfl

/-- White space around a version does not count. -/
theorem isBelow_congr {left right : String} (same : strip left.toList = strip right.toList)
    (minimum : String) : isBelow left minimum = isBelow right minimum := by
  simp only [isBelow, releaseOf, release?, same]

/-- The rule looks at the version of Kotlin when the tool has the version in question. -/
theorem versionCompatibility_eq (context : RuleContext) :
    versionCompatibility.check context =
      if context.catalog.versions.get? "agp" = some "8.11.1" then
        match context.catalog.versions.get? "kotlin" with
        | some kotlin => (isBelow kotlin "1.9.0").map fun below => if below then [oldKotlin] else []
        | none => .ok []
      else .ok [] := by
  simp only [versionCompatibility, requirements, brokenRequirements, isBroken_eq]
  by_cases tool : context.catalog.versions.get? "agp" = some "8.11.1"
  · simp only [tool, if_true]
    cases context.catalog.versions.get? "kotlin" with
    | none => rfl
    | some kotlin =>
        simp only
        cases isBelow kotlin "1.9.0" with
        | error broken => rfl
        | ok below => cases below <;> rfl
  · simp only [tool, if_false]

theorem check_of_declaresOldKotlin (readable : HasReadableKotlin context.catalog)
    (old : DeclaresOldKotlin context.catalog) :
    versionCompatibility.check context = .ok [oldKotlin] := by
  obtain ⟨tool, numbers, declares, below⟩ := old
  have nonempty := declares.values_ne_nil
  have short := readable numbers declares
  obtain ⟨kotlin, found, release⟩ := declares
  rw [versionCompatibility_eq, if_pos tool, found]
  simp only [isBelow_of_isRelease release short, (compareReleases_one_nine_iff nonempty).2 below]
  rfl

theorem check_of_not_declaresOldKotlin (readable : HasReadableKotlin context.catalog)
    (unflagged : ¬DeclaresOldKotlin context.catalog) :
    versionCompatibility.check context = .ok [] := by
  rw [versionCompatibility_eq]
  split
  · next tool =>
      cases found : context.catalog.versions.get? "kotlin" with
      | none => rfl
      | some kotlin =>
          by_cases fits : ∃ numbers, IsRelease (strip kotlin.toList) numbers
          · obtain ⟨numbers, release⟩ := fits
            have declares : DeclaresKotlin context.catalog numbers := ⟨kotlin, found, release⟩
            have recent : ¬IsBelowOneNine (numbers.map decimalValue) :=
              fun below => unflagged ⟨tool, numbers, declares, below⟩
            rw [← compareReleases_one_nine_iff declares.values_ne_nil] at recent
            simp only [isBelow_of_isRelease release (readable numbers declares)]
            rw [beq_false_of_ne recent]
            rfl
          · simp only [isBelow_of_not_isRelease (not_exists.1 fits)]
            rfl
  · rfl

theorem check_eq_iff (readable : HasReadableKotlin context.catalog) :
    versionCompatibility.check context = .ok [oldKotlin] ↔ DeclaresOldKotlin context.catalog := by
  constructor
  · intro flagged
    by_contra unflagged
    rw [check_of_not_declaresOldKotlin readable unflagged] at flagged
    cases flagged
  · exact check_of_declaresOldKotlin readable

/-- Contexts whose releases of Kotlin are flagged alike are given the same findings. -/
theorem check_congr (readable : HasReadableKotlin context.catalog)
    (otherReadable : HasReadableKotlin other.catalog)
    (same : DeclaresOldKotlin other.catalog ↔ DeclaresOldKotlin context.catalog) :
    versionCompatibility.check other = versionCompatibility.check context := by
  by_cases old : DeclaresOldKotlin context.catalog
  · rw [check_of_declaresOldKotlin readable old,
      check_of_declaresOldKotlin otherReadable (same.2 old)]
  · rw [check_of_not_declaresOldKotlin readable old,
      check_of_not_declaresOldKotlin otherReadable (mt same.1 old)]

/-- If no number in the release of Kotlin is too long to be read, the rule has one finding or none:
one exactly when the tool is declared together with a release that begins with zero, or with one and
no second number above eight. Neither white space nor anything after the first two numbers changes
the findings, nor do these numbers unless their values change, and a release that is not above a
rejected one is rejected. -/
theorem versionCompatibility_rejects_old (readable : HasReadableKotlin context.catalog) :
    (versionCompatibility.check context = .ok [oldKotlin] ∨
      versionCompatibility.check context = .ok []) ∧
    (versionCompatibility.check context = .ok [oldKotlin] ↔
      context.catalog.versions.get? "agp" = some "8.11.1" ∧
        ∃ numbers, DeclaresKotlin context.catalog numbers ∧
          IsBelowOneNine (numbers.map decimalValue)) ∧
    ∀ other : RuleContext, HasReadableKotlin other.catalog →
      other.catalog.versions.get? "agp" = context.catalog.versions.get? "agp" →
      (∀ kotlin otherKotlin, context.catalog.versions.get? "kotlin" = some kotlin →
        other.catalog.versions.get? "kotlin" = some otherKotlin →
        strip otherKotlin.toList = strip kotlin.toList →
        versionCompatibility.check other = versionCompatibility.check context) ∧
      ∀ numbers others, DeclaresKotlin context.catalog numbers →
        DeclaresKotlin other.catalog others →
        (BeginAlike (others.map decimalValue) (numbers.map decimalValue) →
          versionCompatibility.check other = versionCompatibility.check context) ∧
        (compareReleases ((others.map decimalValue).map Int.ofNat)
            ((numbers.map decimalValue).map Int.ofNat) ≠ .gt →
          versionCompatibility.check context = .ok [oldKotlin] →
          versionCompatibility.check other = .ok [oldKotlin]) := by
  refine ⟨?_, check_eq_iff readable, fun other otherReadable tool => ⟨?_, ?_⟩⟩
  · by_cases old : DeclaresOldKotlin context.catalog
    · exact .inl (check_of_declaresOldKotlin readable old)
    · exact .inr (check_of_not_declaresOldKotlin readable old)
  · intro kotlin otherKotlin found otherFound same
    rw [versionCompatibility_eq, versionCompatibility_eq, tool, found, otherFound]
    simp only [isBelow_congr same]
  · intro numbers others declares otherDeclares
    constructor
    · intro alike
      refine check_congr readable otherReadable ?_
      rw [declares.declaresOldKotlin_iff, otherDeclares.declaresOldKotlin_iff, tool,
        alike.isBelowOneNine_iff otherDeclares.values_ne_nil declares.values_ne_nil]
    · intro lowered flagged
      have old := (check_eq_iff readable).1 flagged
      rw [declares.declaresOldKotlin_iff,
        ← compareReleases_one_nine_iff declares.values_ne_nil] at old
      refine check_of_declaresOldKotlin otherReadable ?_
      rw [otherDeclares.declaresOldKotlin_iff, tool,
        ← compareReleases_one_nine_iff otherDeclares.values_ne_nil]
      exact ⟨old.1, compareReleases_lt_of_ne_gt lowered old.2⟩

/-- A context that declares the tool and a version of Kotlin. -/
def declaring (kotlin : String) : RuleContext where
  text := []
  catalog := { Catalog.empty with versions := ⟨[("agp", "8.11.1"), ("kotlin", kotlin)], by simp⟩ }
  scope := .namespaced

/-- An old release is rejected with leading zeros, a suffix and white space too, and so is a lower
one. -/
theorem versionCompatibility_rejects_dressed :
    HasReadableKotlin (declaring "1.8.22").catalog ∧
      versionCompatibility.check (declaring " 01.08-rc\n") = .ok [oldKotlin] ∧
      versionCompatibility.check (declaring "0.9") = .ok [oldKotlin] := by
  have declares : DeclaresKotlin (declaring "1.8.22").catalog [['1'], ['8'], ['2', '2']] :=
    ⟨_, rfl, numbers?_eq_some_iff.1 ⟨rfl, rfl⟩⟩
  have dressed : DeclaresKotlin (declaring " 01.08-rc\n").catalog [['0', '1'], ['0', '8']] :=
    ⟨_, rfl, numbers?_eq_some_iff.1 ⟨rfl, rfl⟩⟩
  have lowered : DeclaresKotlin (declaring "0.9").catalog [['0'], ['9']] :=
    ⟨_, rfl, numbers?_eq_some_iff.1 ⟨rfl, rfl⟩⟩
  have readable := declares.readable (by decide)
  obtain ⟨_, flagged, others⟩ := versionCompatibility_rejects_old readable
  have old := flagged.2 ⟨rfl, _, declares, .minor (by decide)⟩
  have zeros := (others _ (dressed.readable (by decide)) rfl).2 _ _ declares dressed
  have lower := (others _ (lowered.readable (by decide)) rfl).2 _ _ declares lowered
  have below : compareReleases [0, 9] [1, 8, 22] = .lt :=
    (compares_compareReleases _ _).eq_lt.2 (extended_lt_of_first_lt (by decide))
  refine ⟨readable, ?_, ?_⟩
  · rw [zeros.1 ⟨rfl, rfl⟩, old]
  · exact lower.2 (fun above => nomatch below.symm.trans above) old

end VersionCatalog.Rule
