import VersionCatalog.Proofs.Document.Values

/-!
# Texts that go on

A text may stand inside a longer one, with lines before it and with more text after it. As long as
what comes after begins with a line break, every reader that succeeds on the short text succeeds on
the long one and finds the same: no span, quoted text or comment runs over its end. `Cursor.embed`
says which positions of the two texts belong together.
-/

namespace VersionCatalog.Document

open Text

/-- Nothing, or a text that begins with a line break. -/
def BreaksLine (later : List Char) : Prop :=
  ∀ char, later.head? = some char → char = '\n'

/-- The position in a longer text: `later` comes after, and `lines` are the lines before. -/
def Cursor.embed (later : List Char) (lines : Nat) (cursor : Cursor) : Cursor :=
  ⟨cursor.rest ++ later, cursor.line + lines⟩

variable {later : List Char} {lines : Nat}

theorem BreaksLine.stops {taken : Char → Bool} (breaks : BreaksLine later)
    (feed : taken '\n' = false) : Stops taken later := by
  intro char first
  rw [breaks char first]
  exact feed

theorem BreaksLine.head?_ne {char : Char} (breaks : BreaksLine later) (other : char ≠ '\n') :
    later.head? ≠ some char := by
  intro first
  exact other (breaks char first)

namespace Cursor

variable {cursor after : Cursor}

@[simp]
theorem embed_rest : (cursor.embed later lines).rest = cursor.rest ++ later := rfl

@[simp]
theorem embed_line : (cursor.embed later lines).line = cursor.line + lines := rfl

theorem advance_embed {count : Nat} (enough : count ≤ cursor.rest.length) :
    (cursor.embed later lines).advance count = (cursor.advance count).embed later lines := by
  simp only [advance, embed, List.drop_append_of_le_length enough,
    List.take_append_of_le_length enough, Nat.add_right_comm]

/-- One character is passed in the longer text as it is in the short one. -/
theorem advance_one_embed (goesOn : cursor.rest ≠ []) :
    (cursor.embed later lines).advance 1 = (cursor.advance 1).embed later lines :=
  advance_embed (List.length_pos_iff.2 goesOn)

theorem head?_embed (goesOn : cursor.rest ≠ []) :
    (cursor.embed later lines).rest.head? = cursor.rest.head? := by
  obtain ⟨char, rest, whole⟩ := List.exists_cons_of_ne_nil goesOn
  simp [whole]

/-- The longer text never goes on with another character where the short one does not. -/
theorem head?_embed_ne {char : Char} (breaks : BreaksLine later) (other : char ≠ '\n')
    (differs : cursor.rest.head? ≠ some char) :
    (cursor.embed later lines).rest.head? ≠ some char := by
  cases whole : cursor.rest with
  | nil => simpa [whole] using breaks.head?_ne other
  | cons first rest => simpa [whole] using differs

theorem skipInline_embed (breaks : BreaksLine later) :
    (cursor.embed later lines).skipInline = cursor.skipInline.embed later lines := by
  have stops : Stops isInlineBlank later := breaks.stops rfl
  simp only [skipInline, embed, dropWhile_append_of_stops stops]

theorem skipComment_embed (breaks : BreaksLine later) :
    (cursor.embed later lines).skipComment = cursor.skipComment.embed later lines := by
  have stops : Stops (· != '\n') later := breaks.stops (by simp)
  cases whole : cursor.rest with
  | nil =>
      have opens := breaks.head?_ne (show '#' ≠ '\n' by decide)
      cases later with
      | nil => simp [skipComment, embed, whole]
      | cons first later =>
          have differs : first ≠ '#' := by simpa using opens
          simp [skipComment, embed, whole, differs]
  | cons char rest =>
      by_cases hash : char = '#'
      · subst hash
        simp only [skipComment, embed, whole, List.cons_append, dropWhile_append_of_stops stops]
      · simp [skipComment, embed, whole, hash]

theorem skipReturn_embed (breaks : BreaksLine later) :
    (cursor.embed later lines).skipReturn = cursor.skipReturn.embed later lines := by
  cases whole : cursor.rest with
  | nil =>
      have opens := breaks.head?_ne (show '\r' ≠ '\n' by decide)
      cases later with
      | nil => simp [skipReturn, embed, whole]
      | cons first later =>
          have differs : first ≠ '\r' := by simpa using opens
          simp [skipReturn, embed, whole, differs]
  | cons char rest =>
      by_cases carriage : char = '\r'
      · subst carriage
        simp only [skipReturn, embed, whole, List.cons_append]
      · simp [skipReturn, embed, whole, carriage]

/-- Filler goes on in the longer text from where it ended in the short one. A comment that the end
of the short text cut off is over after the line break. -/
theorem skipFillerFrom_append (breaks : BreaksLine later) (inComment : Bool) (line : Nat)
    (text : List Char) :
    skipFillerFrom inComment (line + lines) (text ++ later) =
      ((skipFillerFrom inComment line text).embed later lines).skipFiller := by
  induction text generalizing inComment line with
  | nil =>
      cases later with
      | nil => rfl
      | cons first later =>
          obtain rfl := breaks first rfl
          simp [skipFillerFrom, skipFiller, embed]
  | cons char text induction =>
      simp only [skipFillerFrom, List.cons_append]
      split
      · rw [Nat.add_right_comm]
        exact induction false _
      · next same =>
          split
          · exact induction inComment _
          · next kept =>
              split
              · exact induction true _
              · next other =>
                  symm
                  apply skipFiller_of_stops
                  simp only [Bool.or_eq_true, not_or, Bool.not_eq_true] at kept
                  simp [embed, isFillerChar, same, kept, other]

theorem skipFiller_embed (breaks : BreaksLine later) :
    (cursor.embed later lines).skipFiller = (cursor.skipFiller.embed later lines).skipFiller :=
  skipFillerFrom_append breaks false cursor.line cursor.rest

/-- Filler that ends before the text does ends at the same place in the longer text. -/
theorem skipFiller_embed_of_ne_nil (breaks : BreaksLine later)
    (goesOn : cursor.skipFiller.rest ≠ []) :
    (cursor.embed later lines).skipFiller = cursor.skipFiller.embed later lines := by
  rw [skipFiller_embed breaks]
  apply skipFiller_of_stops
  obtain ⟨char, rest, whole⟩ := List.exists_cons_of_ne_nil goesOn
  have stops := stops_skipFiller cursor
  rw [whole, stops_cons_iff] at stops
  rw [embed_rest, whole, List.cons_append, stops_cons_iff]
  exact stops

/-- A line that ends, ends in the longer text too. At the end of the text the line break that
follows is taken, which is filler before the next line. -/
theorem finishLine_embed {content : LineContent} (breaks : BreaksLine later)
    (finished : cursor.finishLine content = .ok after) :
    ∃ further, (cursor.embed later lines).finishLine content = .ok further ∧
      further.skipFiller = (after.embed later lines).skipFiller := by
  simp only [finishLine, skipInline_embed breaks, skipComment_embed breaks,
    skipReturn_embed breaks] at finished ⊢
  split at finished
  · next ended =>
      cases finished
      simp only [embed_rest, ended, List.nil_append]
      cases later with
      | nil => exact ⟨_, rfl, rfl⟩
      | cons first later =>
          obtain rfl := breaks first rfl
          refine ⟨_, rfl, ?_⟩
          simp [skipFiller, embed, ended, skipFillerFrom]
  · next rest opened =>
      cases finished
      simp only [embed_rest, opened, List.cons_append]
      refine ⟨_, rfl, ?_⟩
      simp [embed, Nat.add_right_comm]
  · cases finished

end Cursor

end VersionCatalog.Document
