import VersionCatalog.Proofs.Check.Outcome

/-!
# A leading byte-order mark

A byte-order mark before a text is not part of the document that the text makes. The rules that look
at the text itself do not see it either: it begins no phrase that they look for, and no word. Only a
blank text is reported differently with a mark before it, since the mark is no white space.
-/

namespace VersionCatalog

open Document Text

/-- The text with a byte-order mark before it. -/
def marked (text : String) : String :=
  "\ufeff" ++ text

@[simp] theorem toList_marked (text : String) :
    (marked text).toList = '\ufeff' :: text.toList := by
  simp [marked]

/-! ## What the rules look at -/

/-- A phrase is not mentioned earlier when a character comes before the text that does not begin
it. -/
theorem Text.mentions_cons_of_ne {first char : Char} (other : first ≠ char)
    (phrase text : List Char) :
    mentions (first :: phrase) (char :: text) = mentions (first :: phrase) text := by
  simp [mentions, other]

theorem Text.isWord_mark : isWord '\ufeff' = false := by
  decide +kernel

theorem Text.assignedWords_cons_mark (text : List Char) :
    assignedWords ('\ufeff' :: text) = assignedWords text := by
  simp [assignedWords, assignedWordsFrom, isWord_mark]

theorem Text.quotedAssignments_cons_mark (text : List Char) :
    quotedAssignments ('\ufeff' :: text) = quotedAssignments text := by
  simp [quotedAssignments, quotedAssignmentsFrom, isWord_mark]

theorem Document.ofText_marked [CallStack] {text : String}
    (unmarked : text.toList.head? ≠ some '\ufeff') :
    ofText (marked text) = ofText text := by
  have dropped : dropMark (marked text).toList = dropMark text.toList := by
    rw [toList_marked, dropMark_of_unmarked unmarked, dropMark]
  rw [ofText, ofText, dropped]

/-- The standard rules find the same with a mark before the text. -/
theorem Rule.check_cons_mark (text : List Char) (catalog : Catalog) (scope : KeyScope) :
    ∀ rule ∈ standard,
      rule.check ⟨'\ufeff' :: text, catalog, scope⟩ = rule.check ⟨text, catalog, scope⟩ := by
  have headers (kind : Section) : mentions s!"[{kind.name}]".toList ('\ufeff' :: text) =
      mentions s!"[{kind.name}]".toList text := by
    cases kind <;> exact mentions_cons_of_ne (by decide) _ _
  have keywords : ∀ keyword ∈ testingKeywords, mentions keyword.toList ('\ufeff' :: text) =
      mentions keyword.toList text := by
    simp only [testingKeywords, List.forall_mem_cons]
    refine ⟨?_, ?_, ?_, ?_, nofun⟩
    all_goals exact mentions_cons_of_ne (by decide) _ _
  simp only [standard, List.forall_mem_cons]
  refine ⟨requiredSections_eq_of_mentions headers, rfl, ?_, ?_, rfl, rfl, rfl,
    criticalDependencies_eq_of_mentions keywords, rfl, rfl, rfl, nofun⟩
  · cases scope with
    | namespaced => rfl
    | document => simp only [versionFormat, versionTexts, quotedAssignments_cons_mark]
  · cases scope with
    | namespaced => rfl
    | document => simp only [duplicateKeys, repeatedKeys, assignedWords_cons_mark]

/-! ## Blank texts -/

/-- A blank text has no headers, which is the first thing that the standard rules report. -/
theorem Rule.head?_findings_of_blank {text : String} (blank : isBlankText text.toList = true)
    {document : Document} {scope : KeyScope} {findings : List Finding}
    (applied : applyRules (.ofDocument text document scope) standard = .ok findings) :
    findings.head?.map Finding.rule = some "required_sections" := by
  have missing : mentions "[versions]".toList text.toList = false := by
    rw [Bool.eq_false_iff, ne_eq, mentions_eq_true_iff]
    rintro ⟨before, after, whole⟩
    have bracket : '[' ∈ text.toList := by simp [whole]
    exact absurd (List.all_eq_true.1 blank _ bracket) (by decide)
  obtain ⟨parts, each, rfl⟩ := applyRules_eq_ok_iff.1 applied
  cases each with
  | cons found _ =>
      simp only [requiredSections, Section.required, List.filter_cons, Except.ok.injEq] at found
      rw [if_pos (by rw [Bool.not_eq_true']; exact missing)] at found
      rw [← found]
      rfl

/-- A check with the standard rules reports the same with a byte-order mark before a text, unless
the text is blank. -/
theorem checkText_marked_iff [CallStack] {text : String}
    (unmarked : text.toList.head? ≠ some '\ufeff') (scope : KeyScope) (time : Timestamp) :
    checkText Rule.standard scope time (marked text) = checkText Rule.standard scope time text ↔
      strip text.toList ≠ [] := by
  have visible : isBlankText (marked text).toList = false := by
    simp [isBlankText, show isBlank '\ufeff' = false by decide]
  have applied (document : Document) :
      applyRules (.ofDocument (marked text) document scope) Rule.standard =
        applyRules (.ofDocument text document scope) Rule.standard := by
    apply applyRules_congr
    rw [RuleContext.ofDocument, toList_marked]
    exact Rule.check_cons_mark _ _ _
  rw [ne_eq, strip_eq_nil_iff, checkText, checkText, visible, ofText_marked unmarked]
  simp only [applied]
  constructor
  · intro same blank
    -- Whether or not the text is a document, its first finding with the mark has another rule.
    rw [if_pos blank, if_neg Bool.false_ne_true] at same
    replace same := congrArg (fun report => report.findings.map Finding.rule) same
    split at same
    · simp [Report.failed, Report.ofFindings] at same
    · split at same
      · simp [Report.failed, Report.ofFindings] at same
      · next findings found =>
          have first := Rule.head?_findings_of_blank blank found
          have head := congrArg List.head? same
          simp only [Report.failed, Report.ofFindings, List.head?_map, first] at head
          simp at head
  · intro something
    simp [something]

open scoped CallStack

/-- The words of a text are searched for assignments, with and without a mark before them. -/
theorem checkText_marked_repeated_word :
    checkText Rule.standard .document (.ofInstant 0) (marked "a=1\n[b]\na=2") =
      checkText Rule.standard .document (.ofInstant 0) "a=1\n[b]\na=2" :=
  (checkText_marked_iff (by decide) .document (.ofInstant 0)).2 (by decide)

/-- A mark alone is taken for a catalog without sections, and no text at all for a blank one. -/
theorem checkText_marked_empty :
    (checkText Rule.standard .namespaced (.ofInstant 0) "").errors =
        ["Empty or invalid TOML file"] ∧
      (checkText Rule.standard .namespaced (.ofInstant 0) (marked "")).errors =
        ["The versions section is required", "The libraries section is required"] := by
  decide

end VersionCatalog
