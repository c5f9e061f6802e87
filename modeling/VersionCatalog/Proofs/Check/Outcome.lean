import VersionCatalog.Proofs.Check.Interruption
import VersionCatalog.Proofs.Document.Exhaustion
import VersionCatalog.Proofs.Document.RoundTrip
import VersionCatalog.Proofs.Text.Blank

/-!
# How a check ends

A check ends in one of five ways: the text is blank, it is no document, its tables exhaust the call
stack, a rule breaks off, or all rules give their findings. `checkText_outcome` says that exactly
one of them applies to every text, and what is reported then.
-/

namespace VersionCatalog

open Text

/-- The ways in which a check can end. -/
inductive Ending where
  /-- The text is blank. -/
  | blank
  /-- The text is no document. -/
  | malformed
  /-- The call stack does not suffice to read the text. -/
  | exhausted
  /-- A rule breaks off. -/
  | interrupted
  /-- All rules are applied. -/
  | completed
deriving DecidableEq, Repr

@[simp]
theorem map_rule_findings_ofFault (time : Timestamp) (fault : Document.Fault) :
    (Report.ofFault time fault).findings.map Finding.rule = ["syntax"] := by
  rw [Report.ofFault]
  split
  · rfl
  · rfl

theorem findings_ofFault_of_isTextual {fault : Document.Fault} (textual : fault.IsTextual)
    (time : Timestamp) :
    (Report.ofFault time fault).findings =
      [⟨"syntax", .error, s!"Syntax error: {(Failure.ofFault fault).message}",
        some "Fix the catalog structure; no further checks were run"⟩] := by
  rw [Report.ofFault]
  split
  · next message stack => exact (textual.cause_ne message stack).elim
  · rfl

/-- How a check of a text ends that is no document. -/
def Ending.ofFault (fault : Document.Fault) : Ending :=
  match fault.cause with
  | .exhausted _ => .exhausted
  | _ => .malformed

theorem Ending.ofFault_of_isTextual {fault : Document.Fault} (textual : fault.IsTextual) :
    ofFault fault = .malformed := by
  rw [ofFault]
  split
  · next message stack => exact (textual.cause_ne message stack).elim
  · rfl

section

variable [CallStack]

/-- What a check reports on a text in each of the ways in which it can end. -/
inductive Outcome (rules : List Rule) (scope : KeyScope) (text : String) :
    Ending → List Finding → Prop where
  /-- Nothing but white space is one error. -/
  | blank (nothing : strip text.toList = []) :
      Outcome rules scope text .blank
        [⟨"source", .error, "Empty or invalid TOML file",
          some "Add [versions] and [libraries] sections"⟩]
  /-- The fault of a text that is no document is one error. -/
  | malformed {fault : Document.Fault} (something : strip text.toList ≠ [])
      (unreadable : Document.ofText text = .error fault) (textual : fault.IsTextual) :
      Outcome rules scope text .malformed
        [⟨"syntax", .error, s!"Syntax error: {(Failure.ofFault fault).message}",
          some "Fix the catalog structure; no further checks were run"⟩]
  /-- An exhausted stack is one error without a hint. -/
  | exhausted {line : Nat} (something : strip text.toList ≠ [])
      (unreadable : Document.ofText text = .error ⟨.exhausted CallStack.message, line⟩) :
      Outcome rules scope text .exhausted
        [⟨"syntax", .error, s!"Syntax error: {CallStack.message}", none⟩]
  /-- The reason of the first rule that breaks off is one error without a hint. -/
  | interrupted {document : Document} {broken : Interruption}
      (something : strip text.toList ≠ []) (readable : Document.ofText text = .ok document)
      (stopped : BreaksOff (.ofDocument text document scope) rules broken) :
      Outcome rules scope text .interrupted
        [⟨"syntax", .error, s!"Syntax error: {broken.message}", none⟩]
  /-- Otherwise the findings of all rules are reported. -/
  | completed {document : Document} {findings : List Finding}
      (something : strip text.toList ≠ []) (readable : Document.ofText text = .ok document)
      (given : Gives (.ofDocument text document scope) rules findings) :
      Outcome rules scope text .completed findings

/-- Some ending applies, and what is reported then are the findings of the check. -/
theorem exists_outcome (rules : List Rule) (scope : KeyScope) (time : Timestamp) (text : String) :
    ∃ ending, Outcome rules scope text ending (checkText rules scope time text).findings := by
  rw [checkText]
  split
  · next nothing => exact ⟨.blank, .blank (strip_eq_nil_iff.2 nothing)⟩
  · next something =>
      have something : strip text.toList ≠ [] := fun nothing =>
        something (strip_eq_nil_iff.1 nothing)
      split
      · next fault unreadable =>
          by_cases textual : fault.IsTextual
          · rw [findings_ofFault_of_isTextual textual]
            exact ⟨.malformed, .malformed something unreadable textual⟩
          · obtain ⟨cause, line⟩ := fault
            obtain ⟨rfl, _⟩ := Document.exhausted_of_ofText unreadable textual
            exact ⟨.exhausted, .exhausted something unreadable⟩
      · next document readable =>
          split
          · next broken stopped =>
              exact ⟨.interrupted,
                .interrupted something readable (applyRules_eq_error_iff.1 stopped)⟩
          · next findings given =>
              exact ⟨.completed, .completed something readable (applyRules_eq_ok_iff.1 given)⟩

/-- How a check ends. -/
def endingOf (rules : List Rule) (scope : KeyScope) (text : String) : Ending :=
  if isBlankText text.toList then .blank
  else
    match Document.ofText text with
    | .error fault => .ofFault fault
    | .ok document =>
        match applyRules (.ofDocument text document scope) rules with
        | .error _ => .interrupted
        | .ok _ => .completed

theorem Outcome.eq_endingOf {rules : List Rule} {scope : KeyScope} {text : String}
    {ending : Ending} {findings : List Finding} (outcome : Outcome rules scope text ending findings)
    (time : Timestamp) :
    ending = endingOf rules scope text ∧
      findings = (checkText rules scope time text).findings := by
  have visible (something : strip text.toList ≠ []) : ¬isBlankText text.toList = true :=
    mt strip_eq_nil_iff.2 something
  cases outcome with
  | blank nothing =>
      simp only [endingOf, checkText, if_pos (strip_eq_nil_iff.1 nothing), true_and]
      rfl
  | @malformed fault something unreadable textual =>
      simp only [endingOf, checkText, if_neg (visible something), unreadable,
        Ending.ofFault_of_isTextual textual, findings_ofFault_of_isTextual textual, and_self]
  | exhausted something unreadable =>
      simp only [endingOf, checkText, if_neg (visible something), unreadable]
      exact ⟨rfl, rfl⟩
  | interrupted something readable stopped =>
      simp only [endingOf, checkText, if_neg (visible something), readable,
        applyRules_eq_error_iff.2 stopped, true_and]
      rfl
  | completed something readable given =>
      simp only [endingOf, checkText, if_neg (visible something), readable,
        applyRules_eq_ok_iff.2 given, true_and]
      rfl

/-- No two endings apply, and none reports two lists of findings. -/
theorem Outcome.unique {rules : List Rule} {scope : KeyScope} {text : String}
    {left right : Ending} {leftFindings rightFindings : List Finding}
    (leftOutcome : Outcome rules scope text left leftFindings)
    (rightOutcome : Outcome rules scope text right rightFindings) :
    left = right ∧ leftFindings = rightFindings := by
  obtain ⟨rfl, rfl⟩ := leftOutcome.eq_endingOf (.ofInstant 0)
  obtain ⟨rfl, rfl⟩ := rightOutcome.eq_endingOf (.ofInstant 0)
  exact ⟨rfl, rfl⟩

/-- The report of a check is that of its findings. -/
theorem checkText_eq_ofFindings (rules : List Rule) (scope : KeyScope) (time : Timestamp)
    (text : String) :
    checkText rules scope time text =
      .ofFindings (checkText rules scope time text).findings time := by
  rw [checkText]
  split
  · rfl
  · split
    · rw [Report.ofFault]
      split
      · rfl
      · rfl
    · split
      · rfl
      · rfl

/-- A check that is cut short reports one finding, which is an error. -/
theorem Outcome.exists_eq_singleton {rules : List Rule} {scope : KeyScope} {text : String}
    {ending : Ending} {findings : List Finding} (outcome : Outcome rules scope text ending findings)
    (short : ending ≠ .completed) :
    ∃ finding, findings = [finding] ∧ finding.severity = .error := by
  cases outcome with
  | blank => exact ⟨_, rfl, rfl⟩
  | malformed => exact ⟨_, rfl, rfl⟩
  | exhausted => exact ⟨_, rfl, rfl⟩
  | interrupted => exact ⟨_, rfl, rfl⟩
  | completed => contradiction

/-- The stack is exhausted by tables inside each other. -/
theorem Outcome.tableDepth_lt {rules : List Rule} {scope : KeyScope} {text : String}
    {findings : List Finding} (outcome : Outcome rules scope text .exhausted findings) :
    CallStack.tableDepth < text.toList.count '\x7b' := by
  cases outcome with
  | exhausted _ unreadable =>
      exact (Document.exhausted_of_ofText unreadable fun textual => textual.cause_ne _ rfl).2

/-! ## When the standard rules break off -/

/-- A text with a required version that is too long to be compared. -/
def OverlongRequirement (text : String) : Prop :=
  ∃ document kotlin, Document.ofText text = .ok document ∧
    (Catalog.ofDocument document).versions.get? "agp" = some "8.11.1" ∧
    (Catalog.ofDocument document).versions.get? "kotlin" = some kotlin ∧
    Rule.HasLongNumber kotlin

/-- The standard rules break off exactly on such a text. -/
theorem standard_interrupted_iff {scope : KeyScope} {text : String} :
    (∃ findings, Outcome Rule.standard scope text .interrupted findings) ↔
      OverlongRequirement text := by
  constructor
  · rintro ⟨findings, outcome⟩
    cases outcome with
    | @interrupted document broken something readable stopped =>
        obtain ⟨tool, kotlin, required, long⟩ :=
          Rule.versionCompatibility_eq_error_iff.1 ⟨broken, Rule.standard_breaksOff_iff.1 stopped⟩
        exact ⟨document, kotlin, readable, tool, required, long⟩
  · rintro ⟨document, kotlin, readable, tool, required, long⟩
    have something : strip text.toList ≠ [] := by
      intro nothing
      cases Document.ofText_of_blank nothing readable
      cases tool
    obtain ⟨broken, stopped⟩ := (@Rule.versionCompatibility_eq_error_iff
      (.ofDocument text document scope)).2 ⟨tool, kotlin, required, long⟩
    exact ⟨_, .interrupted something readable (Rule.standard_breaksOff_iff.2 stopped)⟩

/-- Every check ends in exactly one way with what that way reports. Its errors and warnings are the
messages of its findings; a check that is cut short has one error and no warning. The stack is only
exhausted by a text that opens more tables than can be read inside each other, and the standard
rules break off exactly on an overlong requirement. -/
theorem checkText_outcome (rules : List Rule) (scope : KeyScope) (time : Timestamp)
    (text : String) :
    ∃ ending,
      (∀ other findings, Outcome rules scope text other findings ↔
        other = ending ∧ findings = (checkText rules scope time text).findings) ∧
      (checkText rules scope time text).errors =
        ((checkText rules scope time text).findings.filter
          fun finding => finding.severity = .error).map Finding.message ∧
      (checkText rules scope time text).warnings =
        ((checkText rules scope time text).findings.filter
          fun finding => finding.severity = .warning).map Finding.message ∧
      (ending ≠ .completed → (checkText rules scope time text).errors.length = 1 ∧
        (checkText rules scope time text).warnings = []) ∧
      (ending = .exhausted → CallStack.tableDepth < text.toList.count '\x7b') ∧
      (rules = Rule.standard → (ending = .interrupted ↔ OverlongRequirement text)) := by
  obtain ⟨ending, outcome⟩ := exists_outcome rules scope time text
  have errors : (checkText rules scope time text).errors =
      Report.messages .error (checkText rules scope time text).findings :=
    congrArg Report.errors (checkText_eq_ofFindings rules scope time text)
  have warnings : (checkText rules scope time text).warnings =
      Report.messages .warning (checkText rules scope time text).findings :=
    congrArg Report.warnings (checkText_eq_ofFindings rules scope time text)
  refine ⟨ending, ?_, errors, warnings, ?_, ?_, ?_⟩
  · intro other findings
    constructor
    · exact fun another => another.unique outcome
    · rintro ⟨rfl, rfl⟩
      exact outcome
  · intro short
    obtain ⟨finding, alone, grave⟩ := outcome.exists_eq_singleton short
    rw [errors, warnings, alone]
    simp [Report.messages, grave]
  · rintro rfl
    exact outcome.tableDepth_lt
  · rintro rfl
    rw [← @standard_interrupted_iff _ scope]
    constructor
    · rintro rfl
      exact ⟨_, outcome⟩
    · rintro ⟨findings, interrupted⟩
      exact (outcome.unique interrupted).1

end

/-! ## A thousand tables inside each other -/

theorem strip_nestedDocument_ne_nil (depth : Nat) :
    strip (Document.nestedDocument depth).text.toList ≠ [] := by
  have quote : '"' ∈ (Document.nestedDocument depth).text.toList := by
    simp [Document.WrittenDocument.text, Document.WrittenDocument.lines, Document.nestedDocument,
      Document.WrittenEntry.text, Document.Target.text, Document.WrittenKey.text, Document.quoted]
  rw [ne_eq, strip_eq_nil_iff]
  intro blank
  exact absurd (List.all_eq_true.1 blank _ quote) (by decide)

open scoped CallStack

/-- Too many tables inside each other end a check in a way of their own, though there is no rule
that could break off. -/
theorem checkText_nestedDocument_thousand :
    (checkText [] .namespaced (.ofInstant 0) (Document.nestedDocument 1000).text).findings =
        [⟨"syntax", .error, "Syntax error: " ++ CallStack.message, none⟩] ∧
      ∀ ending findings, ending ≠ .exhausted →
        ¬Outcome [] .namespaced (Document.nestedDocument 1000).text ending findings := by
  have deep : CallStack.tableDepth < (Document.nestedDocument 1000).nesting := by
    rw [Document.nesting_nestedDocument]
    decide
  obtain ⟨line, failed⟩ := Document.ofText_of_deep deep
  obtain ⟨ending, outcome⟩ :=
    exists_outcome [] .namespaced (.ofInstant 0) (Document.nestedDocument 1000).text
  have exhausted : Outcome [] .namespaced (Document.nestedDocument 1000).text .exhausted _ :=
    .exhausted (strip_nestedDocument_ne_nil 1000) failed
  exact ⟨(outcome.unique exhausted).2,
    fun other findings differs another => differs (another.unique exhausted).1⟩

end VersionCatalog
