import VersionCatalog.Failure
import VersionCatalog.Proofs.Document.CopiedLines

/-!
# Line ends

A document may end its lines with a carriage return and a line feed as well as with a line feed
alone. Carriage returns are characters of their own in escapes and in texts of several lines, so
that the two agree where a text has neither.
-/

namespace VersionCatalog.Document

open Text

/-- The text with a carriage return before every line feed. -/
def withReturns (text : String) : String :=
  String.ofList (text.toList.flatMap fun char => if char = '\n' then ['\r', '\n'] else [char])

theorem IsPlain.of_suffix {text rest : List Char} (plain : IsPlain text) (suffix : rest <:+ text) :
    IsPlain rest where
  noReturn member := plain.noReturn (suffix.subset member)
  noEscape member := plain.noEscape (suffix.subset member)
  noLongText quote known three := plain.noLongText quote known (three.trans suffix.isInfix)

theorem IsPlain.not_hasLongTextFault {text : List Char} {fault : Fault} (plain : IsPlain text) :
    ¬HasLongTextFault text fault := by
  rintro ⟨before, content, after, whole, _⟩
  refine plain.noLongText '"' (by simp) ⟨before, content ++ ['"', '"', '"'] ++ after, ?_⟩
  rw [whole]
  simp

theorem Copy.dropMark_text (copy : Copy) (original : List Char) :
    dropMark (copy.text original) = copy.text (dropMark original) := by
  by_cases marked : original.head? = some '\ufeff'
  · obtain ⟨rest, rfl⟩ := List.head?_eq_some_iff.1 marked
    rw [Copy.text_cons (by decide)]
    rfl
  · rw [dropMark_of_unmarked marked, dropMark_of_unmarked]
    exact mt (Copy.head?_text_iff (by decide) (by decide)).1 marked

@[simp]
theorem moved_zero (document : Document) : document.moved 0 = document := by
  have same : document.entries.map (Entry.moved 0) = document.entries := List.map_id _
  simp only [moved, same]

/-- A text without carriage returns, escapes and texts of several lines is a document exactly when
it is one with a carriage return before every line feed, and it is the same document. Otherwise both
have a fault of the same kind on the same line. It is even the same fault, unless the line ends
where a key should stand. -/
theorem ofText_withReturns [CallStack] {text : String} (plain : IsPlain text.toList) :
    match ofText text with
    | .ok document => ofText (withReturns text) = .ok document
    | .error fault =>
        ∃ cause, ofText (withReturns text) = .error ⟨cause, fault.line⟩ ∧
          (Failure.ofFault ⟨cause, fault.line⟩).kind = (Failure.ofFault fault).kind ∧
          (cause = fault.cause ∨
            fault.cause = .missingKey (some '\n') ∧ cause = .missingKey (some '\r')) := by
  let copy : Copy := ⟨.returnFeed, 0⟩
  have inside := plain.of_suffix (dropMark_suffix text.toList)
  have lines : readLines (dropMark (withReturns text).toList) =
      many readLine (copy.cursor (Cursor.start (dropMark text.toList))) := by
    have copied : (withReturns text).toList = copy.text text.toList := by
      simp only [withReturns, String.toList_ofList]
      rfl
    rw [copied, Copy.dropMark_text]
    rfl
  have outcome := ofLines_copy (@readLines_copy copy _ _ fun _ => inside)
  simp only [ofText_eq, lines]
  cases read : ofLines (readLines (dropMark text.toList)) with
  | ok document =>
      rw [read] at outcome
      exact outcome.trans (congrArg Except.ok (moved_zero document))
  | error fault =>
      rw [read] at outcome
      obtain ⟨other, failed, reports⟩ := outcome
      cases reports with
      | moved cause line => exact ⟨cause, failed, rfl, .inl rfl⟩
      | returned ending line => exact ⟨_, failed, rfl, .inr ⟨rfl, rfl⟩⟩
      | kept met =>
          have met : MeetsEscapeFault text fault := met
          exact (plain.not_hasLongTextFault met.hasLongTextFault).elim

open scoped CallStack

/-- A header and an assignment end their lines with a carriage return and a line feed. -/
theorem ofText_two_lines_withReturns :
    IsPlain "[a]\nx = \"1\"\n".toList ∧
      ofText (withReturns "[a]\nx = \"1\"\n") = .ok ⟨["a"], [⟨"a", "x", .text "1", 2⟩]⟩ := by
  have plain : IsPlain "[a]\nx = \"1\"\n".toList :=
    ⟨by decide, by decide, by simp [List.infix_cons_iff]⟩
  exact ⟨plain, @ofText_withReturns _ "[a]\nx = \"1\"\n" plain⟩

end VersionCatalog.Document
