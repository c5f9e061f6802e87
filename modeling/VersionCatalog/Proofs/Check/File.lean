import VersionCatalog.Check.File
import VersionCatalog.Proofs.Check.Outcome
import VersionCatalog.Proofs.Rule.Messages

/-!
# Checking files

A check gives a report for every path without a null character. Its findings begin with words of
their own, never with those that a failed check is announced with.
-/

namespace VersionCatalog

open Text

/-! ## Paths and files -/

theorem Path.nullFree_ofText {text : String} (nullFree : '\x00' ∉ text.toList) :
    '\x00' ∉ (Path.ofText text).text.toList := by
  have names : ∀ name ∈ (Path.ofText text).names, '\x00' ∉ name.toList := by
    intro name member
    obtain ⟨field, kept, rfl⟩ := List.mem_map.1 member
    rw [String.toList_ofList]
    exact fun inside => nullFree (mem_of_mem_fields (List.mem_filter.1 kept).1 inside)
  have joined : '\x00' ∉ ("/".intercalate (Path.ofText text).names).toList := by
    intro member
    rw [String.toList_intercalate] at member
    rcases mem_intercalate member with slash | ⟨chars, listed, inside⟩
    · exact absurd slash (by decide)
    · obtain ⟨name, kept, rfl⟩ := List.mem_map.1 listed
      exact names name kept inside
  rw [Path.text]
  cases (Path.ofText text).anchor with
  | here =>
      dsimp only
      split
      · decide
      · exact joined
  | root => simpa using joined
  | doubleRoot => simpa using joined

/-- Every path without a null character gives a report. -/
theorem exists_checkFile [CallStack] {path : Path} (nullFree : '\x00' ∉ path.text.toList)
    (system : FileSystem) (rules : List Rule) (scope : KeyScope) (time : Timestamp) :
    ∃ report, checkFile system rules scope time path = .ok report := by
  unfold checkFile
  split
  · exact ⟨_, rfl⟩
  · next stopped => exact (system.read_ne_nullCharacter path nullFree stopped).elim
  · exact ⟨_, rfl⟩
  · exact ⟨_, rfl⟩

/-! ## Messages -/

/-- The words that a failed check is announced with come first. -/
def AnnouncesFailure (message : String) : Prop :=
  "Validation failed".toList <+: message.toList

namespace Rule

variable {context : RuleContext}

/-- No finding of a rule announces that the check failed. -/
def IsModest (rule : Rule) (context : RuleContext) : Prop :=
  ∀ findings, rule.check context = .ok findings →
    ∀ finding ∈ findings, ¬AnnouncesFailure finding.message

theorem standard_isModest : ∀ rule ∈ standard, rule.IsModest context := by
  intro rule listed findings found finding member announces
  have apart : ∀ pair ∈ standardOpenings, Apart pair.2 ["Validation failed"] := by decide
  obtain ⟨openings, given⟩ := exists_mem_standardOpenings listed
  obtain ⟨opening, own, opens⟩ := standardOpenings_opens _ given findings found finding member
  exact apart _ given opening own "Validation failed" (List.mem_singleton_self _)
    (overlap_of_begins opens announces)

end Rule

/-- Rules that do not announce that the check failed one by one do not do so together. -/
theorem Gives.isModest {context : RuleContext} {rules : List Rule} {findings : List Finding}
    (modest : ∀ rule ∈ rules, rule.IsModest context) (given : Gives context rules findings) :
    ∀ finding ∈ findings, ¬AnnouncesFailure finding.message := by
  intro finding member
  obtain ⟨rule, listed, part, found, inside⟩ := given.mem_iff.1 member
  exact modest rule listed part found finding inside

variable [CallStack]

theorem checkText_isModest (scope : KeyScope) (time : Timestamp) (text : String) :
    ∀ finding ∈ (checkText Rule.standard scope time text).findings,
      ¬AnnouncesFailure finding.message := by
  obtain ⟨ending, outcome⟩ := exists_outcome Rule.standard scope time text
  generalize (checkText Rule.standard scope time text).findings = findings at outcome
  cases outcome with
  | blank => simp [AnnouncesFailure]
  | malformed => simp [AnnouncesFailure, toString]
  | exhausted => simp [AnnouncesFailure, toString]
  | interrupted => simp [AnnouncesFailure, toString]
  | completed _ _ given => exact given.isModest Rule.standard_isModest

/-- No finding in the report on a file announces that the check failed. -/
theorem checkFile_isModest {system : FileSystem} {scope : KeyScope} {time : Timestamp} {path : Path}
    {report : Report} (checked : checkFile system Rule.standard scope time path = .ok report) :
    ∀ finding ∈ report.findings, ¬AnnouncesFailure finding.message := by
  unfold checkFile at checked
  split at checked
  · cases checked
    unfold checkBytes
    split
    · simp [Report.failed, Report.ofFindings, AnnouncesFailure, toString]
    · exact checkText_isModest _ _ _
  · cases checked
  · cases checked
    simp [Report.failed, Report.ofFindings, AnnouncesFailure, toString]
  · cases checked
    simp [Report.failed, Report.ofFindings, AnnouncesFailure, toString]

end VersionCatalog
