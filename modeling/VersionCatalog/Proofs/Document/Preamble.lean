import VersionCatalog.Proofs.Document.CopiedEscapes
import VersionCatalog.Proofs.Document.WrittenKeys

/-!
# Blank lines and comments before a document

Blank lines and comments before a document only move it down. Where it cannot be read, the same is
reported further down, with one exception. The escapes of a text between three double quotes are
read after the text has been cut out, and their lines are counted from its start. Such a fault is
reported for the same line wherever the document stands.
-/

namespace VersionCatalog.Document

open Text

/-- Filler does not begin with a byte-order mark. -/
theorem dropMark_fillerText {text : List Char} (filler : List Filler)
    (unmarked : text.head? ≠ some '\ufeff') :
    dropMark (fillerText filler ++ text) = fillerText filler ++ text := by
  apply dropMark_of_unmarked
  cases filler with
  | nil => exact unmarked
  | cons first filler =>
      cases first with
      | space => simp [fillerText, Filler.text]
      | tab => simp [fillerText, Filler.text]
      | carriageReturn => simp [fillerText, Filler.text]
      | lineFeed => simp [fillerText, Filler.text]
      | comment words oneLine => simp [fillerText, Filler.text]

/-- Blank lines and comments before a document move its entries down by as many lines. Before a text
that is no document they move its fault too, exactly when reading does not meet it in the escapes
between three double quotes, whose lines are counted apart. -/
theorem ofText_after_filler [CallStack] (filler : List Filler) {text : String}
    (unmarked : text.toList.head? ≠ some '\ufeff') :
    match ofText text with
    | .ok document =>
        ofText (String.ofList (fillerText filler) ++ text) =
          .ok (document.moved ((fillerText filler).count '\n'))
    | .error fault =>
        ∃ line, ofText (String.ofList (fillerText filler) ++ text) = .error ⟨fault.cause, line⟩ ∧
          (¬MeetsEscapeFault text fault ∧ line = fault.line + (fillerText filler).count '\n' ∨
            MeetsEscapeFault text fault ∧ HasLongTextFault text.toList fault ∧
              line = fault.line) := by
  let copy : Copy := ⟨.feed, (fillerText filler).count '\n'⟩
  have suits : copy.Suits text.toList := Copy.suits_of_feed rfl _
  have unchanged : dropMark text.toList = text.toList := dropMark_of_unmarked unmarked
  have lines : readLines (fillerText filler ++ text.toList) =
      many readLine (copy.cursor (Cursor.start text.toList)) := by
    apply many_readLine_congr
    simp only [Cursor.skipFiller, Cursor.start, skipFillerFrom_fillerText, Copy.cursor,
      @Copy.text_of_feed copy rfl, copy]
  simp only [ofText_eq, String.toList_append, String.toList_ofList,
    dropMark_fillerText filler unmarked, unchanged, lines]
  cases read : ofLines (readLines text.toList) with
  | ok document =>
      have outcome := ofLines_copy (readLines_copy suits)
      rw [read] at outcome
      exact outcome
  | error fault =>
      obtain ⟨line, failed, ⟨met, same⟩ | ⟨unmet, further⟩⟩ :=
        @ofLines_copy_of_error copy _ _ _ rfl read
      · have met : MeetsEscapeFault text fault := by rwa [MeetsEscapeFault, unchanged]
        exact ⟨line, failed, .inr ⟨met, met.hasLongTextFault, same⟩⟩
      · have unmet : ¬MeetsEscapeFault text fault := by rwa [MeetsEscapeFault, unchanged]
        exact ⟨line, failed, .inl ⟨unmet, further⟩⟩

open scoped CallStack

/-- Reading comes to the long text of an assignment, whose escape is malformed. -/
theorem meetsEscapeFault_assignment :
    MeetsEscapeFault "x = \"\"\"\\uZZZZ\"\"\"" ⟨.invalidEscape 'u' "ZZZZ", 1⟩ := by
  have met : (Stage.long '"').MeetsEscape ⟨"\"\"\"\\uZZZZ\"\"\"".toList, 1⟩
      ⟨.invalidEscape 'u' "ZZZZ", 1⟩ := .escapes rfl rfl rfl
  have value := Stage.MeetsEscape.later
    (@Stage.Leads.text _ _ CallStack.tableDepth (by decide) (by decide)) (.later (.long rfl) met)
  have assigned := Stage.MeetsEscape.later
    (@Stage.Leads.assigned _ (Cursor.start "x = \"\"\"\\uZZZZ\"\"\"".toList) _ "x" rfl rfl) value
  exact .later (.round .lines _) (.later (.line (by decide) (by decide)) assigned)

/-- A comment and an empty line come before an assignment, before one without a value, and before
one whose long text has a malformed escape. -/
theorem ofText_after_comment :
    ofText ("#!\n\n" ++ "x = 1") = .ok ⟨[], [⟨"", "x", .text "1", 3⟩]⟩ ∧
      ofText ("#!\n\n" ++ "x = ") = .error ⟨.missingValue, 3⟩ ∧
      ofText ("#!\n\n" ++ "x = \"\"\"\\uZZZZ\"\"\"") =
        .error ⟨.invalidEscape 'u' "ZZZZ", 1⟩ := by
  let filler : List Filler := [.comment ['!'] (by decide), .lineFeed]
  refine ⟨@ofText_after_filler _ filler "x = 1" (by decide), ?_, ?_⟩
  · have outcome := @ofText_after_filler _ filler "x = " (by decide)
    rw [show ofText "x = " = .error ⟨.missingValue, 1⟩ from rfl] at outcome
    obtain ⟨line, failed, ⟨_, further⟩ | ⟨_, ⟨before, content, after, whole, _⟩, _⟩⟩ := outcome
    · rw [further] at failed
      exact failed
    · have longer := congrArg List.length whole
      simp at longer
      omega
  · have outcome := @ofText_after_filler _ filler "x = \"\"\"\\uZZZZ\"\"\"" (by decide)
    rw [show ofText "x = \"\"\"\\uZZZZ\"\"\"" = .error ⟨.invalidEscape 'u' "ZZZZ", 1⟩ from rfl]
      at outcome
    obtain ⟨line, failed, ⟨unmet, _⟩ | ⟨_, _, same⟩⟩ := outcome
    · exact (unmet meetsEscapeFault_assignment).elim
    · rw [same] at failed
      exact failed

/-- An escape on the second line of a text is reported for the first, since its line is counted from
the quotes. -/
theorem ofText_escape_below_empty_line :
    ofText "x = \"\"\"\\uZZZZ\"\"\"" = .error ⟨.invalidEscape 'u' "ZZZZ", 1⟩ ∧
      ofText ("\n" ++ "x = \"\"\"\\uZZZZ\"\"\"") = .error ⟨.invalidEscape 'u' "ZZZZ", 1⟩ ∧
      ofText ("\n" ++ "x = \"\"\"\\uZZZZ\"\"\"") ≠ .error ⟨.invalidEscape 'u' "ZZZZ", 2⟩ := by
  have reported : ofText ("\n" ++ "x = \"\"\"\\uZZZZ\"\"\"") =
      .error ⟨.invalidEscape 'u' "ZZZZ", 1⟩ := rfl
  refine ⟨rfl, reported, ?_⟩
  rw [reported]
  simp

end VersionCatalog.Document
