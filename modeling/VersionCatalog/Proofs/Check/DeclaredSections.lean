import VersionCatalog.Proofs.Catalog.Sections
import VersionCatalog.Proofs.Check.Outcome
import VersionCatalog.Proofs.Document.Structure
import VersionCatalog.Proofs.Rule.Messages

/-!
# Declared sections that are missing

A section is declared by a header, which may have white space between its brackets, but it is
missing as long as its name in plain brackets stands nowhere in the text. So a declared section is
reported as missing only when its header is written with white space, and only then can it be
reported as empty too.
-/

namespace VersionCatalog

open Text

namespace Document

/-- A header of a section stands in a text, with these characters between its brackets. -/
def WritesHeader [CallStack] (text name : String) (inside : List Char) : Prop :=
  ∃ line before later after, .header name line ∈ (readLines (dropMark text.toList)).items ∧
    dropMark text.toList = before ++ '[' :: (inside ++ ']' :: later) ∧
    line = 1 + before.count '\n' ∧ ']' ∉ inside ∧
    readHeader ⟨'[' :: (inside ++ ']' :: later), line⟩ = .ok (name, after)

variable [CallStack] {text name : String} {inside : List Char}

theorem exists_writesHeader {document : Document} (readable : ofText text = .ok document)
    (declared : name ∈ document.sections) : ∃ inside, WritesHeader text name inside := by
  obtain ⟨lines, after, reads, _, rfl⟩ := ofText_eq_ok_iff.1 readable
  obtain ⟨line, member⟩ := exists_of_mem_headerNames declared
  obtain ⟨read, before, rest, stopped, whole, counted, header⟩ := headerAt_of_reads reads member
  obtain ⟨span, later, opened, within, _⟩ := readHeader_eq_ok_iff.1 header
  have unbroken : rest = span ++ ']' :: later := opened
  subst unbroken
  refine ⟨span, line, before, later, stopped, read, whole, counted, fun closed => ?_, header⟩
  exact absurd (within _ closed) (by decide)

/-- The name of a section is what its header has between the brackets, less the white space around
it. -/
theorem WritesHeader.strip_eq (written : WritesHeader text name inside) :
    String.ofList (strip inside) = name := by
  obtain ⟨line, before, later, after, _, _, _, unclosed, header⟩ := written
  obtain ⟨span, rest, opened, within, _, _, named, _⟩ := readHeader_eq_ok_iff.1 header
  have whole : inside ++ ']' :: later = span ++ ']' :: rest := opened
  have upTo {front rest : List Char} (unclosed : ']' ∉ front) :
      (front ++ ']' :: rest).takeWhile (· != ']') = front :=
    takeWhile_of_stops (fun char member => bne_iff_ne.2 fun same => unclosed (same ▸ member))
      (stops_cons rfl)
  have spanUnclosed : ']' ∉ span := fun closed => absurd (within _ closed) (by decide)
  rw [← upTo unclosed, whole, upTo spanUnclosed, named]

/-- The name of a section stands in plain brackets where its header is written without white
space. -/
theorem WritesHeader.mentions (written : WritesHeader text name name.toList) :
    Text.mentions s!"[{name}]".toList text.toList = true := by
  obtain ⟨_, before, later, _, _, whole, _⟩ := written
  obtain ⟨mark, marked, _⟩ := exists_dropMark_append text.toList
  rw [mentions_eq_true_iff]
  refine ⟨mark ++ before, later, ?_⟩
  rw [marked, whole]
  simp [toString]

end Document

/-! ## Messages of rules and of reports -/

theorem Text.mentions_iff_isInfix {phrase text : List Char} :
    mentions phrase text = true ↔ phrase <:+: text := by
  rw [mentions_eq_true_iff]
  exact exists₂_congr fun _ _ => eq_comm

namespace Rule

variable {context : RuleContext} {kind : Section}

/-- A rule has a finding with a message. -/
def Reports (rule : Rule) (context : RuleContext) (message : String) : Prop :=
  ∃ findings, rule.check context = .ok findings ∧
    ∃ finding ∈ findings, finding.message = message

theorem reports_iff_of_map {α : Type} {rule : Rule} {items : List α} {finding : α → Finding}
    (checked : rule.check context = .ok (items.map finding))
    (distinct : ∀ item other, (finding item).message = (finding other).message → item = other)
    (item : α) : rule.Reports context (finding item).message ↔ item ∈ items := by
  constructor
  · rintro ⟨findings, found, finding, member, same⟩
    cases checked.symm.trans found
    obtain ⟨other, listed, rfl⟩ := List.mem_map.1 member
    exact distinct _ _ same ▸ listed
  · intro listed
    exact ⟨_, checked, _, List.mem_map_of_mem listed, rfl⟩

/-- A required section is reported as missing exactly when its name stands nowhere in plain
brackets. -/
theorem requiredSections_reports_iff (required : kind ∈ Section.required) :
    requiredSections.Reports context s!"The {kind.name} section is required" ↔
      ¬s!"[{kind.name}]".toList <:+: context.text := by
  rw [← mentions_iff_isInfix, Bool.not_eq_true, ← Bool.not_eq_true']
  refine (@reports_iff_of_map context _ requiredSections _ _ rfl ?_ kind).trans
    (List.mem_filter.trans (and_iff_right required))
  intro kind other same
  cases kind <;> cases other <;> first | rfl | exact absurd same (by decide)

/-- A required section is reported as empty exactly when it is declared and binds nothing. -/
theorem emptySections_reports_iff (required : kind ∈ Section.required) :
    emptySections.Reports context s!"Empty section: {kind.name}" ↔
      kind.name ∈ context.catalog.sections ∧ context.catalog.keys kind = [] := by
  rw [← List.contains_iff_mem, ← List.isEmpty_iff, ← Bool.and_eq_true]
  refine (@reports_iff_of_map context _ emptySections _ _ rfl ?_ kind).trans
    (List.mem_filter.trans (and_iff_right required))
  intro kind other same
  cases kind <;> cases other <;> first | rfl | exact absurd same (by decide)

end Rule

/-- A finding of a report has a message. -/
def Report.Shows (report : Report) (message : String) : Prop :=
  ∃ finding ∈ report.findings, finding.message = message

section

variable [CallStack] {text : String} {document : Document} {scope : KeyScope} {rules : List Rule}

/-- Standard rules show a message that begins with the words of one of them exactly when this rule
is among them and reports it, and all of them give their findings. -/
theorem checkText_shows_iff (something : strip text.toList ≠ [])
    (readable : Document.ofText text = .ok document)
    (listed : ∀ rule ∈ rules, rule ∈ Rule.standard) (time : Timestamp)
    {own : Rule × List String} (known : own ∈ Rule.standardOpenings) {words message : String}
    (word : words ∈ own.2) (begins : Rule.Begins words message) :
    (checkText rules scope time text).Shows message ↔
      own.1 ∈ rules ∧ own.1.Reports (.ofDocument text document scope) message ∧
        ∃ findings, Gives (.ofDocument text document scope) rules findings := by
  obtain ⟨ending, outcome⟩ := exists_outcome rules scope time text
  constructor
  · rintro ⟨finding, member, rfl⟩
    generalize (checkText rules scope time text).findings = findings at member outcome
    cases outcome with
    | blank nothing => exact (something nothing).elim
    | malformed _ unreadable => cases readable.symm.trans unreadable
    | exhausted _ unreadable => cases readable.symm.trans unreadable
    | interrupted =>
        have apart : ∀ pair ∈ Rule.standardOpenings, Rule.Apart pair.2 ["Syntax error: "] := by
          decide
        cases List.mem_singleton.1 member
        refine (apart own known words word _ (List.mem_singleton_self _)
          (Rule.overlap_of_begins begins ?_)).elim
        simp [Rule.Begins, toString]
    | completed _ again given =>
        cases readable.symm.trans again
        obtain ⟨rule, applied, part, found, inside⟩ := given.mem_iff.1 member
        cases Rule.eq_of_begins known word (listed rule applied) found inside begins
        exact ⟨applied, ⟨part, found, finding, inside, rfl⟩, findings, given⟩
  · rintro ⟨applied, ⟨part, found, finding, inside, rfl⟩, findings, given⟩
    have complete := (outcome.unique (.completed something readable given)).2
    exact ⟨finding, complete ▸ given.mem_iff.2 ⟨own.1, applied, part, found, inside⟩, rfl⟩

/-- A declared section is reported as missing exactly when its name stands nowhere in plain
brackets, and then its header has white space around the name. A report by standard rules has it
both as missing and as empty exactly when, moreover, it binds nothing and both rules are applied,
and no rule breaks off. -/
theorem checkText_declared_section (readable : Document.ofText text = .ok document)
    {kind : Section} (required : kind ∈ Section.required)
    (declared : kind.name ∈ document.sections) (scope : KeyScope) :
    (∃ inside, Document.WritesHeader text kind.name inside) ∧
    (Rule.requiredSections.Reports (.ofDocument text document scope)
      s!"The {kind.name} section is required" ↔ ¬s!"[{kind.name}]".toList <:+: text.toList) ∧
    (∀ inside, Document.WritesHeader text kind.name inside →
      String.ofList (strip inside) = kind.name ∧
        (Rule.requiredSections.Reports (.ofDocument text document scope)
          s!"The {kind.name} section is required" → inside ≠ kind.name.toList)) ∧
    ∀ rules time, (∀ rule ∈ rules, rule ∈ Rule.standard) →
      ((checkText rules scope time text).Shows s!"The {kind.name} section is required" ∧
        (checkText rules scope time text).Shows s!"Empty section: {kind.name}" ↔
          ¬s!"[{kind.name}]".toList <:+: text.toList ∧
            (Catalog.ofDocument document).keys kind = [] ∧
            Rule.requiredSections ∈ rules ∧ Rule.emptySections ∈ rules ∧
            ∃ findings, Gives (.ofDocument text document scope) rules findings) := by
  have reported := @Rule.requiredSections_reports_iff (.ofDocument text document scope) _ required
  refine ⟨Document.exists_writesHeader readable declared, reported, ?_, ?_⟩
  · intro inside written
    refine ⟨written.strip_eq, ?_⟩
    rintro missing rfl
    exact reported.1 missing (mentions_iff_isInfix.1 written.mentions)
  · intro rules time listed
    have something : strip text.toList ≠ [] := by
      intro nothing
      cases Document.ofText_of_blank nothing readable
      cases declared
    have declaredThere :
        kind.name ∈ (RuleContext.ofDocument text document scope).catalog.sections := by
      rwa [RuleContext.ofDocument, Catalog.sections_ofDocument]
    have opens : Rule.Begins "The " s!"The {kind.name} section is required" := by
      simp [Rule.Begins, toString]
    have opensEmpty : Rule.Begins "Empty section: " s!"Empty section: {kind.name}" := by
      simp [Rule.Begins, toString]
    have own : (Rule.requiredSections, ["The "]) ∈ Rule.standardOpenings := List.mem_cons_self
    have ownEmpty : (Rule.emptySections, ["Empty section: "]) ∈ Rule.standardOpenings :=
      List.mem_cons_of_mem _ List.mem_cons_self
    rw [checkText_shows_iff something readable listed time own (List.mem_singleton_self _) opens,
      checkText_shows_iff something readable listed time ownEmpty (List.mem_singleton_self _)
        opensEmpty, reported, Rule.emptySections_reports_iff required]
    constructor
    · rintro ⟨⟨applied, missing, given⟩, appliedEmpty, ⟨_, nothing⟩, _⟩
      exact ⟨missing, nothing, applied, appliedEmpty, given⟩
    · rintro ⟨missing, nothing, applied, appliedEmpty, given⟩
      exact ⟨⟨applied, missing, given⟩, appliedEmpty, ⟨declaredThere, nothing⟩, given⟩

end

open scoped CallStack

/-- The header of a section that is declared and missing has white space around its name. -/
theorem checkText_declared_section_spaced :
    Document.ofText "[ versions ]\n" = .ok ⟨["versions"], []⟩ ∧
      ∃ inside, Document.WritesHeader "[ versions ]\n" "versions" inside ∧
        String.ofList (strip inside) = "versions" ∧ inside ≠ "versions".toList := by
  obtain ⟨⟨inside, written⟩, _, headers, _⟩ := @checkText_declared_section _ "[ versions ]\n"
    ⟨["versions"], []⟩ rfl .versions (by decide) (by decide) .namespaced
  have missing : Rule.requiredSections.Reports
      (.ofDocument "[ versions ]\n" ⟨["versions"], []⟩ .namespaced)
      "The versions section is required" := ⟨_, rfl, _, List.mem_cons_self, rfl⟩
  exact ⟨rfl, inside, written, (headers inside written).1, (headers inside written).2 missing⟩

/-- A declared section whose header is written with white space can be both missing and empty. -/
theorem checkText_spaced_header :
    Document.ofText "[ versions ]\n" = .ok ⟨["versions"], []⟩ ∧ ∀ time,
      checkText [Rule.requiredSections, Rule.emptySections] .namespaced time "[ versions ]\n" =
        ⟨["The versions section is required", "The libraries section is required"],
          ["Empty section: versions"], time,
          [⟨"required_sections", .error, "The versions section is required",
              some "Add a [versions] section (section names are lowercase)"⟩,
            ⟨"required_sections", .error, "The libraries section is required",
              some "Add a [libraries] section (section names are lowercase)"⟩,
            ⟨"empty_sections", .warning, "Empty section: versions",
              some "Declare at least one entry under [versions] or remove it"⟩]⟩ :=
  ⟨rfl, fun _ => rfl⟩

end VersionCatalog
