import VersionCatalog.Proofs.Document.CopiedLines

/-!
# Faults in the escapes of a copy

Below further lines, reading comes to the long texts that it came to before. So it meets the faults
of their escapes again, and it reports them for the lines that it reported before. Since a document
has only one fault, this decides for which line the fault of the copy is reported.
-/

namespace VersionCatalog.Document

open Text

/-- The repetition as it is in a text that further lines come before. -/
def Loop.moved (lines : Nat) : Loop → Loop
  | fields depth opening => fields depth (opening + lines)
  | items opening => items (opening + lines)
  | quoted opening => quoted (opening + lines)
  | loop => loop

/-- The stage as it is in a text that further lines come before. -/
def Stage.moved (lines : Nat) : Stage → Stage
  | rounds loop => rounds (loop.moved lines)
  | round loop => round (loop.moved lines)
  | stage => stage

variable {copy : Copy} {apart : Fault → Prop}

theorem Copy.suits_of_feed (ending : copy.ending = .feed) (original : List Char) :
    copy.Suits original := by
  intro other
  rw [ending] at other
  cases other

/-! ## The same long texts -/

theorem readEscapedPart_copy (ending : copy.ending = .feed) (position : Cursor) :
    copy.Agrees apart (Next.map id) (readEscapedPart position)
      (readEscapedPart (copy.cursor position)) := by
  simp only [readEscapedPart, Copy.cursor_rest, Copy.text_of_feed ending,
    Copy.advance_of_feed ending]
  split
  · exact .found _ _
  · exact (readEscape_copy ending _).map fun _ _ => .found _ _
  · exact .found _ _

/-- A key is the same in the copy. -/
theorem readKey_moved {key : String} {cursor named : Cursor} (ending : copy.ending = .feed)
    (read : readKey cursor = .ok (key, named)) :
    readKey (copy.cursor cursor) = .ok (key, copy.cursor named) := by
  have step := @readKey_copy _ _ _ (fun _ => False) (Copy.suits_of_feed ending cursor.rest)
    (List.suffix_rfl : cursor.Within cursor.rest)
  rw [read] at step
  exact step.found_inv

section Stages

variable [CallStack] {stage other : Stage} {cursor begun : Cursor} {fault : Fault}

/-- After a round that does not end a repetition, the copy goes on too. -/
theorem Loop.next_moved {loop : Loop} {after : Cursor} {item : loop.Item}
    (ending : copy.ending = .feed) (read : loop.next cursor = .ok (.more item, after)) :
    ∃ item, (loop.moved copy.lines).next (copy.cursor cursor) =
      .ok (.more item, copy.cursor after) := by
  have suits := Copy.suits_of_feed ending cursor.rest
  have within : cursor.Within cursor.rest := List.suffix_rfl
  cases loop with
  | lines =>
      have step := readLine_copy suits within
      rw [show readLine cursor = _ from read] at step
      exact ⟨_, step.found_inv⟩
  | keyParts =>
      have step := @readDottedPart_copy _ _ _ (fun _ => False) suits within
      rw [show readDottedPart cursor = _ from read] at step
      exact ⟨_, step.found_inv⟩
  | fields depth opening =>
      have step := readField_copy suits within opening fun inside =>
        readValueWithin_copy depth suits inside
      rw [show readField _ opening cursor = _ from read] at step
      exact ⟨_, step.found_inv⟩
  | items opening =>
      have step := readItem_copy suits within opening
      rw [show readItem opening cursor = _ from read] at step
      exact ⟨_, step.found_inv⟩
  | quoted opening =>
      change readBasicPart opening cursor = _ at read
      have goesOn : cursor.rest.head? ≠ some '\n' := by
        intro feed
        rw [readBasicPart_end (.inr feed)] at read
        cases read
      have step := @readBasicPart_copy _ _ _ (fun _ => False) suits within opening goesOn
      rw [read] at step
      exact ⟨_, step.found_inv⟩
  | escaped =>
      have step := @readEscapedPart_copy _ (fun _ => False) ending cursor
      rw [show readEscapedPart cursor = _ from read] at step
      exact ⟨_, step.found_inv⟩

namespace Stage

/-- What a stage leads to, it leads to in the copy. -/
theorem Leads.moved (ending : copy.ending = .feed) (leads : Leads stage cursor other begun) :
    Leads (stage.moved copy.lines) (copy.cursor cursor) (other.moved copy.lines)
      (copy.cursor begun) := by
  have same := fun cursor : Cursor => Copy.text_of_feed ending cursor.rest
  cases leads with
  | round loop => exact .round _ _
  | further read =>
      obtain ⟨item, read⟩ := Loop.next_moved ending read
      exact .further read
  | line goesOn notHeader =>
      rw [← Copy.skipFiller]
      refine .line ?_ ?_
      · rwa [Copy.skipFiller, Copy.cursor_rest, same]
      · rwa [Copy.skipFiller, Copy.cursor_rest, same]
  | assigned read equals =>
      rw [← Copy.skipInline, ← Copy.advance_of_feed ending, ← Copy.skipInline]
      refine .assigned (readKey_moved ending read) ?_
      rwa [Copy.skipInline, Copy.cursor_rest, same]
  | table opened => exact .table (by rwa [Copy.cursor_rest, same])
  | fields filled =>
      rw [← Copy.skipFiller, ← Copy.advance_of_feed ending]
      refine .fields ?_
      rwa [Copy.advance_of_feed ending, Copy.skipFiller, Copy.cursor_rest, same]
  | field goesOn read equals =>
      rw [← Copy.skipInline, ← Copy.advance_of_feed ending, ← Copy.skipInline]
      refine .field ?_ (readKey_moved ending read) ?_
      · rwa [Copy.cursor_rest, same]
      · rwa [Copy.skipInline, Copy.cursor_rest, same]
  | array opened => exact .array (by rwa [Copy.cursor_rest, same])
  | items cursor =>
      rw [← Copy.advance_of_feed ending]
      exact .items (copy.cursor cursor)
  | item goesOn notClosed notNested =>
      rw [← Copy.skipFiller]
      refine .item ?_ ?_ ?_
      · rwa [Copy.skipFiller, Copy.cursor_rest, same]
      · rwa [Copy.skipFiller, Copy.cursor_rest, same]
      · rwa [Copy.skipFiller, Copy.cursor_rest, same]
  | text notTable notArray =>
      exact .text (by rwa [Copy.cursor_rest, same]) (by rwa [Copy.cursor_rest, same])
  | long opened => exact .long (by rwa [Copy.cursor_rest, same])

/-- A fault that is met in escapes is met in those of the copy. -/
theorem MeetsEscape.moved (ending : copy.ending = .feed) (met : stage.MeetsEscape cursor fault) :
    (stage.moved copy.lines).MeetsEscape (copy.cursor cursor) fault := by
  induction met with
  | @escapes cursor content rest fault opened closed failed =>
      have stillOpened : ['"', '"', '"'].isPrefixOf (copy.cursor cursor).rest = true := by
        rwa [Copy.cursor_rest, Copy.text_of_feed ending]
      have stillClosed : splitAtThree? '"' ((copy.cursor cursor).advance 3).rest =
          some (content, rest) := by
        rwa [Copy.advance_of_feed ending, Copy.cursor_rest, Copy.text_of_feed ending]
      exact .escapes stillOpened stillClosed failed
  | later leads _ induction => exact .later (leads.moved ending) induction

end Stage

end Stages

/-! ## The fault of a document -/

/-- Where the lines end with a fault, it is that of the document, unless a section is declared again
before. -/
theorem ofLines_eq_error_cases {items : Items Line} {fault other : Fault}
    (ended : items.result = .error fault) (failed : ofLines items = .error other) :
    other = fault ∨ ∃ name, other.cause = .repeatedSection name := by
  have stopped : items.ending = .error fault := map_eq_error_iff.1 ended
  rw [ofLines, stopped] at failed
  cases again : repeatedHeader? [] items.items with
  | none =>
      rw [again] at failed
      cases failed
      exact .inl rfl
  | some repeated =>
      rw [again] at failed
      cases failed
      exact .inr (cause_of_repeatedHeader? again)

/-- The copy has the fault of the text further down, unless it is met in the escapes of a long
text. -/
theorem ofLines_copy_of_error [CallStack] {original : List Char} {fault : Fault}
    (ending : copy.ending = .feed) (failed : ofLines (readLines original) = .error fault) :
    ∃ line, ofLines (many readLine (copy.cursor (Cursor.start original))) =
        .error ⟨fault.cause, line⟩ ∧
      ((Stage.rounds .lines).MeetsEscape (Cursor.start original) fault ∧ line = fault.line ∨
        ¬(Stage.rounds .lines).MeetsEscape (Cursor.start original) fault ∧
          line = fault.line + copy.lines) := by
  have outcome := ofLines_copy (readLines_copy (Copy.suits_of_feed ending original))
  rw [failed] at outcome
  obtain ⟨other, copied, reports⟩ := outcome
  by_cases met : (Stage.rounds .lines).MeetsEscape (Cursor.start original) fault
  · have alike : other.cause = fault.cause := by
      cases reports with
      | moved cause line => rfl
      | returned other line => simp [ending] at other
      | kept met => rfl
    obtain ⟨marker, code, cause⟩ := met.cause_eq
    have same : other = fault := by
      have ended := (met.moved ending).read_eq_error
      rcases ofLines_eq_error_cases ended copied with same | ⟨name, again⟩
      · exact same
      · rw [alike, cause] at again
        cases again
    exact ⟨fault.line, same ▸ copied, .inl ⟨met, rfl⟩⟩
  · cases reports with
    | moved cause line => exact ⟨_, copied, .inr ⟨met, rfl⟩⟩
    | returned other line => simp [ending] at other
    | kept kept => exact (met kept).elim

end VersionCatalog.Document
