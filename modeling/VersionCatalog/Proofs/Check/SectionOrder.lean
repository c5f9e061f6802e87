import VersionCatalog.Proofs.Check.Validity
import VersionCatalog.Proofs.Document.Blocks

/-!
# The order of sections

The order in which a text declares its sections makes no difference to what the catalog binds, and
only the order of repeated keys depends on it. A check reports the same, since each rule looks at
the bindings, at the repeats or for phrases on one line.
-/

namespace VersionCatalog

open Document Text

/-- Two lists of findings are the same, but those of one rule may come in another order. -/
structure SameFindings (reordered : String) (left right : List Finding) : Prop where
  others : left.filter (fun finding => finding.rule ≠ reordered) =
    right.filter fun finding => finding.rule ≠ reordered
  own : (left.filter fun finding => finding.rule = reordered).Perm
    (right.filter fun finding => finding.rule = reordered)

/-- Two rules, or two runs of rules, break off for the same reason or give the same findings. -/
inductive SameResult (reordered : String) :
    Except Interruption (List Finding) → Except Interruption (List Finding) → Prop where
  | broken (reason : Interruption) : SameResult reordered (.error reason) (.error reason)
  | given {left right : List Finding} (same : SameFindings reordered left right) :
      SameResult reordered (.ok left) (.ok right)

/-- Two reports agree on whether a catalog is valid and have the same findings, but those of one
rule may come in another order. -/
structure Report.SameBut (reordered : String) (left right : Report) : Prop where
  isValid : left.isValid = right.isValid
  findings : SameFindings reordered left.findings right.findings

/-- Rules look at catalogs that declare the same, and at texts with the same phrases. -/
structure RuleContext.Agrees (left right : RuleContext) : Prop where
  catalog : left.catalog.Agrees right.catalog
  phrases : ∀ phrase, phrase ≠ [] → '\n' ∉ phrase →
    mentions phrase left.text = mentions phrase right.text
  leftScope : left.scope = .namespaced
  rightScope : right.scope = .namespaced

variable {reordered : String} {left right : RuleContext}

/-! ## Findings in another order -/

theorem SameFindings.refl (reordered : String) (findings : List Finding) :
    SameFindings reordered findings findings :=
  ⟨rfl, .refl _⟩

theorem SameFindings.append {left right otherLeft otherRight : List Finding}
    (first : SameFindings reordered left right)
    (second : SameFindings reordered otherLeft otherRight) :
    SameFindings reordered (left ++ otherLeft) (right ++ otherRight) where
  others := by rw [List.filter_append, List.filter_append, first.others, second.others]
  own := by
    rw [List.filter_append, List.filter_append]
    exact first.own.append second.own

/-- Findings of the one rule only. -/
theorem SameFindings.of_perm {left right : List Finding} (perm : left.Perm right)
    (own : ∀ finding ∈ left, finding.rule = reordered) : SameFindings reordered left right := by
  have rightOwn : ∀ finding ∈ right, finding.rule = reordered := fun finding member =>
    own finding (perm.mem_iff.2 member)
  constructor
  · rw [List.filter_eq_nil_iff.2 (by simpa using own),
      List.filter_eq_nil_iff.2 (by simpa using rightOwn)]
  · exact perm.filter _

theorem SameFindings.perm {left right : List Finding} (same : SameFindings reordered left right) :
    left.Perm right := by
  have parts : ∀ findings : List Finding,
      (findings.filter (fun finding => finding.rule = reordered) ++
        findings.filter fun finding => finding.rule ≠ reordered).Perm findings := by
    intro findings
    have split :=
      List.filter_append_perm (fun finding : Finding => finding.rule = reordered) findings
    simpa using split
  refine (parts left).symm.trans (.trans ?_ (parts right))
  rw [same.others]
  exact same.own.append_right _

theorem SameResult.refl (reordered : String) (result : Except Interruption (List Finding)) :
    SameResult reordered result result := by
  cases result with
  | error reason => exact .broken reason
  | ok findings => exact .given (.refl reordered findings)

/-- Rules that do the same one by one do the same together. -/
theorem applyRules_sameResult {rules : List Rule}
    (each : ∀ rule ∈ rules, SameResult reordered (rule.check left) (rule.check right)) :
    SameResult reordered (applyRules left rules) (applyRules right rules) := by
  induction rules with
  | nil => exact .refl reordered (.ok [])
  | cons rule rules induction =>
      simp only [List.mem_cons, forall_eq_or_imp] at each
      have later := induction each.2
      have first := each.1
      simp only [applyRules]
      generalize rule.check left = leftResult at first ⊢
      generalize rule.check right = rightResult at first ⊢
      cases first with
      | broken reason => exact .broken reason
      | given same =>
          generalize applyRules left rules = leftResults at later ⊢
          generalize applyRules right rules = rightResults at later ⊢
          cases later with
          | broken reason => exact .broken reason
          | given others => exact .given (same.append others)

/-! ## The standard rules -/

namespace Rule

theorem requiredSections_congr (agrees : left.Agrees right) :
    requiredSections.check left = requiredSections.check right := by
  have header : ∀ kind : Section,
      s!"[{kind.name}]".toList ≠ [] ∧ '\n' ∉ s!"[{kind.name}]".toList := by
    intro kind
    cases kind <;> decide
  exact requiredSections_eq_of_mentions fun kind =>
    agrees.phrases _ (header kind).1 (header kind).2

theorem criticalDependencies_congr (agrees : left.Agrees right) :
    criticalDependencies.check left = criticalDependencies.check right := by
  have oneLine : ∀ keyword ∈ testingKeywords, keyword.toList ≠ [] ∧ '\n' ∉ keyword.toList := by
    decide
  exact criticalDependencies_eq_of_mentions fun keyword member =>
    agrees.phrases _ (oneLine keyword member).1 (oneLine keyword member).2

theorem emptySections_congr (agrees : left.Agrees right) :
    emptySections.check left = emptySections.check right := by
  have declared : ∀ name, left.catalog.sections.contains name =
      right.catalog.sections.contains name := by
    intro name
    rw [Bool.eq_iff_iff, List.contains_iff_mem, List.contains_iff_mem]
    exact agrees.catalog.sections.mem_iff
  have keys : ∀ kind, left.catalog.keys kind = right.catalog.keys kind := by
    intro kind
    simp only [Catalog.keys, agrees.catalog.versions, agrees.catalog.libraries,
      agrees.catalog.plugins, agrees.catalog.bundles]
  simp only [emptySections, declared, keys]

/-- The rules that look at the bindings of a catalog only. -/
def onBindings : List Rule :=
  [versionFormat, versionReferences, moduleFormat, pluginIdFormat, versionCompatibility,
   bundleReferences, vulnerableVersions]

theorem onBindings_congr {rule : Rule} (agrees : left.Agrees right) (member : rule ∈ onBindings) :
    rule.check left = rule.check right := by
  obtain ⟨text, ⟨versions, libraries, plugins, bundles, repeats, sections⟩, scope⟩ := left
  obtain ⟨otherText, ⟨_, _, _, _, otherRepeats, otherSections⟩, otherScope⟩ := right
  obtain ⟨⟨rfl, rfl, rfl, rfl, _, _⟩, _, rfl, rfl⟩ := agrees
  simp only [onBindings, List.mem_cons, List.not_mem_nil, or_false] at member
  rcases member with rfl | rfl | rfl | rfl | rfl | rfl | rfl
  all_goals rfl

/-- Keys are reported in the order in which they are repeated. -/
theorem duplicateKeys_sameResult (agrees : left.Agrees right) :
    SameResult "duplicate_keys" (duplicateKeys.check left) (duplicateKeys.check right) := by
  have keys : (repeatedKeys left).Perm (repeatedKeys right) := by
    have repeats := agrees.catalog.repeats.map Repeat.key
    simp only [List.map_map] at repeats
    rw [repeatedKeys, repeatedKeys, agrees.leftScope, agrees.rightScope]
    exact repeats
  refine .given (.of_perm (keys.map _) ?_)
  intro finding member
  obtain ⟨key, _, rfl⟩ := List.mem_map.1 member
  rfl

theorem standard_sameResult (agrees : left.Agrees right) :
    ∀ rule ∈ standard, SameResult "duplicate_keys" (rule.check left) (rule.check right) := by
  have same : ∀ {rule : Rule}, rule.check left = rule.check right →
      SameResult "duplicate_keys" (rule.check left) (rule.check right) := by
    intro rule same
    rw [same]
    exact .refl _ _
  have bindings : ∀ rule ∈ onBindings,
      SameResult "duplicate_keys" (rule.check left) (rule.check right) := fun rule member =>
    same (onBindings_congr agrees member)
  simp only [onBindings, List.forall_mem_cons] at bindings
  simp only [standard, List.forall_mem_cons]
  obtain ⟨format, references, modules, ids, compatible, bundles, vulnerable, none⟩ := bindings
  exact ⟨same (requiredSections_congr agrees), same (emptySections_congr agrees), format,
    duplicateKeys_sameResult agrees, references, modules, ids,
    same (criticalDependencies_congr agrees), compatible, bundles, vulnerable, none⟩

end Rule

/-! ## Catalogs and checks -/

namespace Catalog

variable {left right : Catalog}

theorem Agrees.versionReferences (agrees : left.Agrees right) :
    left.versionReferences = right.versionReferences := by
  simp only [Catalog.versionReferences, agrees.libraries, agrees.plugins]

theorem Agrees.resolve? (agrees : left.Agrees right) (reference inlineVersion : Option String) :
    left.resolve? reference inlineVersion = right.resolve? reference inlineVersion := by
  simp only [Catalog.resolve?, agrees.versions]

end Catalog

theorem Report.sameBut_of_findings {left right : List Finding}
    (same : SameFindings reordered left right) (time later : Timestamp) :
    (ofFindings left time).SameBut reordered (ofFindings right later) where
  isValid := by
    rw [Bool.eq_iff_iff, isValid_ofFindings_iff, isValid_ofFindings_iff]
    simp only [same.perm.mem_iff]
  findings := same

/-- A check reports the same on two texts when the rules look at the same. -/
theorem checkText_sameBut [CallStack] {text other : String} {first second : Document}
    (readable : ofText text = .ok first) (otherReadable : ofText other = .ok second)
    (blank : isBlankText text.toList = isBlankText other.toList)
    (agrees : RuleContext.Agrees (.ofDocument text first .namespaced)
      (.ofDocument other second .namespaced)) (time later : Timestamp) :
    (checkText Rule.standard .namespaced time text).SameBut "duplicate_keys"
      (checkText Rule.standard .namespaced later other) := by
  have applied := applyRules_sameResult (Rule.standard_sameResult agrees)
  rw [checkText, checkText, readable, otherReadable, blank]
  split
  · exact Report.sameBut_of_findings (.refl _ _) time later
  · dsimp only
    generalize applyRules (.ofDocument text first .namespaced) Rule.standard = result at applied ⊢
    generalize applyRules (.ofDocument other second .namespaced) Rule.standard = others
      at applied ⊢
    cases applied with
    | broken reason => exact Report.sameBut_of_findings (.refl _ _) time later
    | given same => exact Report.sameBut_of_findings same time later

/-- Blocks of different sections may be joined in any order. The catalogs bind the same aliases in
the same order and repeat the same keys, and checks with the standard rules report the same. Only
repeated keys may come in another order. -/
theorem joinBlocks_perm [CallStack] {blocks others : List Block} (perm : blocks.Perm others)
    (distinct : (blocks.map Block.name).Nodup) :
    ∃ first second, ofText (joinBlocks blocks) = .ok first ∧
      ofText (joinBlocks others) = .ok second ∧
      (Catalog.ofDocument first).Agrees (Catalog.ofDocument second) ∧
      (Catalog.ofDocument first).versionReferences =
        (Catalog.ofDocument second).versionReferences ∧
      (∀ library, (Catalog.ofDocument first).libraryVersion? library =
        (Catalog.ofDocument second).libraryVersion? library) ∧
      (∀ plugin, (Catalog.ofDocument first).pluginVersion? plugin =
        (Catalog.ofDocument second).pluginVersion? plugin) ∧
      ∀ time later,
        (checkText Rule.standard .namespaced time (joinBlocks blocks)).SameBut "duplicate_keys"
          (checkText Rule.standard .namespaced later (joinBlocks others)) := by
  have otherDistinct := (perm.map Block.name).nodup_iff.1 distinct
  obtain ⟨first, readable, names, entries⟩ := ofText_joinBlocks distinct
  obtain ⟨second, otherReadable, otherNames, otherEntries⟩ := ofText_joinBlocks otherDistinct
  have agrees : (Catalog.ofDocument first).Agrees (Catalog.ofDocument second) := by
    apply Catalog.ofDocument_agrees
    · intro kind
      rw [Section.entriesOf, Section.entriesOf, entries, otherEntries, filter_blockEntries,
        filter_blockEntries, filter_eq_of_perm perm distinct]
    · rw [names, otherNames]
      exact perm.map Block.name
  have blank : isBlankText (joinBlocks blocks).toList = isBlankText (joinBlocks others).toList := by
    rw [isBlankText_joinBlocks, isBlankText_joinBlocks]
    exact perm.all_eq
  have context : RuleContext.Agrees (.ofDocument (joinBlocks blocks) first .namespaced)
      (.ofDocument (joinBlocks others) second .namespaced) := by
    refine ⟨agrees, fun phrase written oneLine => ?_, rfl, rfl⟩
    exact (mentions_joinBlocks written oneLine blocks).trans
      (perm.any_eq.trans (mentions_joinBlocks written oneLine others).symm)
  exact ⟨first, second, readable, otherReadable, agrees, agrees.versionReferences,
    fun library => agrees.resolve? _ _, fun plugin => agrees.resolve? _ _,
    checkText_sameBut readable otherReadable blank context⟩

open scoped CallStack

/-- Versions may be declared before libraries or after them. -/
theorem joinBlocks_swap :
    ∃ versions libraries : Block, versions.text = "[versions]\nv = \"1\"" ∧
      libraries.text = "[libraries]\nl = \"g:a\"" ∧
      ∃ first second, ofText (joinBlocks [versions, libraries]) = .ok first ∧
        ofText (joinBlocks [libraries, versions]) = .ok second ∧
        (Catalog.ofDocument first).Agrees (Catalog.ofDocument second) := by
  let versions : Block :=
    { text := "[versions]\nv = \"1\""
      name := "versions"
      entries := [⟨"versions", "v", .text "1", 2⟩]
      unmarked := by decide
      read := rfl
      owned := by simp }
  let libraries : Block :=
    { text := "[libraries]\nl = \"g:a\""
      name := "libraries"
      entries := [⟨"libraries", "l", .text "g:a", 2⟩]
      unmarked := by decide
      read := rfl
      owned := by simp }
  have distinct : ([versions, libraries].map Block.name).Nodup := by simp [versions, libraries]
  obtain ⟨first, second, readable, otherReadable, agrees, _⟩ :=
    joinBlocks_perm (.swap libraries versions []) distinct
  exact ⟨versions, libraries, rfl, rfl, first, second, readable, otherReadable, agrees⟩

end VersionCatalog
