import Mathlib.Data.List.Forall2
import VersionCatalog.Check
import VersionCatalog.Proofs.Version.NumericRelease

/-!
# Rules that break off

Rules are applied in order until one breaks off. Among the standard rules only the one that compares
releases can do so, namely when the required version has a number that is too long to be read.
-/

namespace VersionCatalog

/-- Rules give findings, which are those of each rule in the order of the rules. -/
def Gives (context : RuleContext) (rules : List Rule) (findings : List Finding) : Prop :=
  ∃ parts, List.Forall₂ (fun rule part => rule.check context = .ok part) rules parts ∧
    parts.flatten = findings

/-- The first rule that breaks off does so for a reason: all rules before it give findings. -/
def BreaksOff (context : RuleContext) (rules : List Rule) (broken : Interruption) : Prop :=
  ∃ before rule after, rules = before ++ rule :: after ∧
    (∀ earlier ∈ before, ∃ findings, earlier.check context = .ok findings) ∧
    rule.check context = .error broken

/-- A finding of several rules is one of some of them. -/
theorem Gives.mem_iff {context : RuleContext} {rules : List Rule} {findings : List Finding}
    (given : Gives context rules findings) {finding : Finding} :
    finding ∈ findings ↔
      ∃ rule ∈ rules, ∃ part, rule.check context = .ok part ∧ finding ∈ part := by
  obtain ⟨parts, each, rfl⟩ := given
  induction each with
  | nil => simp
  | cons found _ induction => simp [found, induction]

theorem applyRules_eq_ok_iff {context : RuleContext} {rules : List Rule}
    {findings : List Finding} :
    applyRules context rules = .ok findings ↔ Gives context rules findings := by
  induction rules generalizing findings with
  | nil =>
      simp only [applyRules, Except.ok.injEq, Gives, List.forall₂_nil_left_iff, exists_eq_left,
        List.flatten_nil]
  | cons rule rules induction =>
      simp only [applyRules]
      constructor
      · intro applied
        split at applied
        · cases applied
        · next part found =>
            cases rest : applyRules context rules with
            | error broken => simp [rest, Except.map] at applied
            | ok others =>
                obtain ⟨parts, each, whole⟩ := induction.1 rest
                simp only [rest, Except.map, Except.ok.injEq] at applied
                exact ⟨part :: parts, .cons found each, by rw [← applied, ← whole]; rfl⟩
      · rintro ⟨parts, each, whole⟩
        cases each with
        | @cons _ part _ parts found each =>
            rw [found]
            simp only [induction.2 ⟨parts, each, rfl⟩, Except.map, Except.ok.injEq]
            exact whole

theorem applyRules_eq_error_iff {context : RuleContext} {rules : List Rule}
    {broken : Interruption} :
    applyRules context rules = .error broken ↔ BreaksOff context rules broken := by
  induction rules with
  | nil => simp [applyRules, BreaksOff]
  | cons rule rules induction =>
      simp only [applyRules]
      constructor
      · intro applied
        split at applied
        · next reason found =>
            cases applied
            exact ⟨[], rule, rules, rfl, by simp, found⟩
        · next part found =>
            cases rest : applyRules context rules with
            | ok others => simp [rest, Except.map] at applied
            | error reason =>
                simp only [rest, Except.map, Except.error.injEq] at applied
                subst applied
                obtain ⟨before, breaking, after, rfl, given, stopped⟩ := induction.1 rest
                refine ⟨rule :: before, breaking, after, rfl, ?_, stopped⟩
                simp only [List.mem_cons, forall_eq_or_imp]
                exact ⟨⟨part, found⟩, given⟩
      · rintro ⟨before, breaking, after, whole, given, stopped⟩
        cases before with
        | nil =>
            cases whole
            rw [stopped]
        | cons first before =>
            cases whole
            obtain ⟨part, found⟩ := given _ List.mem_cons_self
            have rest := induction.2 ⟨before, breaking, after, rfl,
              fun earlier member => given earlier (List.mem_cons_of_mem _ member), stopped⟩
            rw [found]
            simp only [rest, Except.map]

/-- Rules that give more one by one give more together. -/
theorem Gives.sublist {left right : RuleContext} {rules : List Rule} {fewer more : List Finding}
    (each : ∀ rule ∈ rules, ∀ fewer more, rule.check left = .ok fewer →
      rule.check right = .ok more → fewer.Sublist more)
    (leftGives : Gives left rules fewer) (rightGives : Gives right rules more) :
    fewer.Sublist more := by
  obtain ⟨leftParts, leftEach, rfl⟩ := leftGives
  obtain ⟨rightParts, rightEach, rfl⟩ := rightGives
  induction leftEach generalizing rightParts with
  | nil =>
      cases rightEach
      exact .slnil
  | cons found _ induction =>
      cases rightEach with
      | cons other others =>
          rw [List.forall_mem_cons] at each
          exact (each.1 _ _ found other).append (induction each.2 _ others)

/-- Rules that do the same one by one do the same together. -/
theorem applyRules_congr {left right : RuleContext} {rules : List Rule}
    (same : ∀ rule ∈ rules, rule.check left = rule.check right) :
    applyRules left rules = applyRules right rules := by
  induction rules with
  | nil => rfl
  | cons rule rules induction =>
      rw [List.forall_mem_cons] at same
      rw [applyRules, applyRules, same.1, induction same.2]

namespace Rule

open Text Version

/-! ## Phrases in a text -/

theorem requiredSections_eq_of_mentions {left right : RuleContext}
    (same : ∀ kind : Section, mentions s!"[{kind.name}]".toList left.text =
      mentions s!"[{kind.name}]".toList right.text) :
    requiredSections.check left = requiredSections.check right := by
  simp only [requiredSections, same]

theorem criticalDependencies_eq_of_mentions {left right : RuleContext}
    (same : ∀ keyword ∈ testingKeywords,
      mentions keyword.toList left.text = mentions keyword.toList right.text) :
    criticalDependencies.check left = criticalDependencies.check right := by
  have mentioned : (testingKeywords.any fun keyword => mentions keyword.toList left.text) =
      testingKeywords.any fun keyword => mentions keyword.toList right.text := by
    rw [Bool.eq_iff_iff, List.any_eq_true, List.any_eq_true]
    refine exists_congr fun keyword => and_congr_right fun member => ?_
    rw [same keyword member]
  simp only [criticalDependencies, mentioned]

/-! ## Long numbers -/

theorem release?_minimum : release? "1.9.0" = .ok (some [1, 9, 0]) := by
  rfl

/-- A version has a numeric release with a number of more than 4300 digits. -/
def HasLongNumber (version : String) : Prop :=
  ∃ numbers, IsRelease (strip version.toList) numbers ∧ ∃ number ∈ numbers, 4300 < number.length

/-- A version has a numeric release that is below the least one. -/
def IsOlder (version : String) (least : List Int) : Prop :=
  ∃ numbers, IsRelease (strip version.toList) numbers ∧
    compareReleases (numbers.map fun number => (numeral number : Int)) least = .lt

theorem isBelow_eq_error_iff {version : String} :
    (∃ broken, isBelow version "1.9.0" = .error broken) ↔ HasLongNumber version := by
  refine Iff.trans ?_ release?_eq_error_iff
  simp only [isBelow, releaseOf, release?_minimum]
  cases release? version with
  | error refused => simp
  | ok numbers => cases numbers <;> simp

theorem isBelow_eq_false_iff {version : String} :
    isBelow version "1.9.0" = .ok false ↔
      ¬(IsOlder version [1, 9, 0] ∨ HasLongNumber version) := by
  by_cases long : HasLongNumber version
  · obtain ⟨broken, found⟩ := isBelow_eq_error_iff.2 long
    simp [found, long]
  · simp only [long, or_false, IsOlder]
    by_cases fits : ∃ numbers, IsRelease (strip version.toList) numbers
    · obtain ⟨numbers, release⟩ := fits
      have short : ∀ number ∈ numbers, number.length ≤ digitLimit := by
        intro number member
        by_contra longer
        exact long ⟨numbers, release, number, member, Nat.not_le.1 longer⟩
      have read := release?_eq_some_iff.2 ⟨numbers, release, short, rfl⟩
      have only : ∀ others, IsRelease (strip version.toList) others ↔ others = numbers :=
        fun others => ⟨fun other => other.unique release, fun same => same ▸ release⟩
      simp [isBelow, releaseOf, read, release?_minimum, only, Function.comp_def]
    · have read := release?_of_not_isRelease (not_exists.1 fits)
      simp only [not_exists] at fits
      simp [isBelow, releaseOf, read, release?_minimum, fits]

/-- The tool's version is declared together with another version, which is looked at. -/
theorem isBroken_eq (requirement : Requirement) (catalog : Catalog) :
    requirement.isBroken catalog =
      if catalog.versions.get? requirement.tool = some requirement.toolVersion then
        match catalog.versions.get? requirement.required with
        | some required => isBelow required requirement.minimum
        | none => .ok false
      else .ok false := by
  simp only [Requirement.isBroken]
  cases catalog.versions.get? requirement.tool <;>
    cases catalog.versions.get? requirement.required <;> simp

/-- The comparison of releases breaks off exactly on a required version with a long number. -/
theorem versionCompatibility_eq_error_iff {context : RuleContext} :
    (∃ broken, versionCompatibility.check context = .error broken) ↔
      context.catalog.versions.get? "agp" = some "8.11.1" ∧
        ∃ kotlin, context.catalog.versions.get? "kotlin" = some kotlin ∧ HasLongNumber kotlin := by
  simp only [versionCompatibility, requirements, brokenRequirements, isBroken_eq]
  by_cases tool : context.catalog.versions.get? "agp" = some "8.11.1"
  · cases required : context.catalog.versions.get? "kotlin" with
    | none => simp [tool]
    | some kotlin =>
        simp only [tool, if_true, true_and, Option.some.injEq, exists_eq_left',
          ← isBelow_eq_error_iff]
        cases isBelow kotlin "1.9.0" with
        | error broken => simp
        | ok below => cases below <;> simp [Except.map]
  · simp [tool]

/-- The standard rules that compare no releases. -/
def uncompared : List Rule :=
  [requiredSections, emptySections, versionFormat, duplicateKeys, versionReferences, moduleFormat,
   pluginIdFormat, criticalDependencies, bundleReferences, vulnerableVersions]

theorem standard_eq :
    standard = uncompared.take 8 ++ versionCompatibility :: uncompared.drop 8 := rfl

theorem criticalDependencies_gives (context : RuleContext) :
    ∃ findings, criticalDependencies.check context = .ok findings := by
  simp only [criticalDependencies]
  split
  · exact ⟨_, rfl⟩
  · exact ⟨_, rfl⟩

/-- A rule that compares no releases gives findings in every context. -/
theorem check_eq_ok_of_mem_uncompared {rule : Rule} (context : RuleContext)
    (member : rule ∈ uncompared) : ∃ findings, rule.check context = .ok findings := by
  simp only [uncompared, List.mem_cons, List.not_mem_nil, or_false] at member
  rcases member with rfl | rfl | rfl | rfl | rfl | rfl | rfl | rfl | rfl | rfl
  all_goals first | exact ⟨_, rfl⟩ | exact criticalDependencies_gives context

/-- The standard rules break off exactly when the comparison of releases does. -/
theorem standard_breaksOff_iff {context : RuleContext} {broken : Interruption} :
    BreaksOff context standard broken ↔ versionCompatibility.check context = .error broken := by
  constructor
  · rintro ⟨before, rule, after, whole, _, stopped⟩
    have member : rule ∈ standard := by simp [whole]
    rw [standard_eq, List.mem_append, List.mem_cons] at member
    have compared : rule ∈ uncompared → rule.check context ≠ .error broken := by
      intro member
      obtain ⟨findings, found⟩ := check_eq_ok_of_mem_uncompared context member
      simp [found]
    rcases member with earlier | rfl | later
    · exact (compared (List.mem_of_mem_take earlier) stopped).elim
    · exact stopped
    · exact (compared (List.mem_of_mem_drop later) stopped).elim
  · intro stopped
    refine ⟨_, _, _, standard_eq, ?_, stopped⟩
    intro earlier member
    exact check_eq_ok_of_mem_uncompared context (List.mem_of_mem_take member)

end Rule

end VersionCatalog
