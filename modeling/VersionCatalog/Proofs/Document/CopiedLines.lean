import VersionCatalog.Proofs.Document.CopiedValues
import VersionCatalog.Proofs.Document.EmbeddedValues

/-!
# Lines on a copy

The carriage return that ends a line of the copy is taken where the line ends. So the lines of the
copy are those of the text, further down, and they make the same document.
-/

namespace VersionCatalog

/-- The entry as it is in a text that further lines come before. -/
def Entry.moved (lines : Nat) (entry : Entry) : Entry :=
  { entry with line := entry.line + lines }

namespace Document

open Text

/-- The document as it is in a text that further lines come before. -/
def moved (lines : Nat) (document : Document) : Document :=
  ⟨document.sections, document.entries.map (Entry.moved lines)⟩

/-- The document that lines make, or the fault that is reported. -/
def ofLines (lines : Items Line) : Except Fault Document :=
  match repeatedHeader? [] lines.items, lines.ending with
  | some fault, _ => .error fault
  | none, .error fault => .error fault
  | none, .ok _ => .ok ⟨headerNames lines.items, entriesIn "" lines.items⟩

theorem ofText_eq [CallStack] (text : String) :
    ofText text = ofLines (readLines (dropMark text.toList)) := rfl

variable {copy : Copy} {original : List Char} {position : Cursor} {apart : Fault → Prop}

/-! ## Ends of lines -/

theorem Cursor.finishLine_eq (cursor : Cursor) (content : LineContent) :
    cursor.finishLine content =
      let ended := cursor.skipInline.skipComment.skipReturn
      if ended.rest = [] then .ok ended
      else if ended.rest.head? = some '\n' then .ok (ended.advance 1)
      else .error (ended.fault (.trailingText content)) := by
  simp only [Cursor.finishLine]
  split
  · next ended => rw [if_pos ended]
  · next rest feed => simp [feed, Cursor.advance]
  · next goesOn notFeed => rw [if_neg goesOn, if_neg (head?_ne_of_forall notFeed)]

/-- The next character of the text and of its copy is the same line feed, so that the copy is past
the carriage return that may come before it. -/
def Copy.AtFeed (copy : Copy) (left right : Cursor) : Prop :=
  ∃ rest line, left = ⟨'\n' :: rest, line⟩ ∧ right = ⟨'\n' :: copy.text rest, line + copy.lines⟩

/-- A comment ends with the line. It takes the carriage return that ends the line of a copy. -/
theorem skipComment_copy (position : Cursor) :
    (copy.cursor position).skipComment = copy.cursor position.skipComment ∨
      copy.AtFeed position.skipComment (copy.cursor position).skipComment := by
  obtain ⟨text, line⟩ := position
  have copied : ∀ words, (copy.cursor ⟨'#' :: words, line⟩).skipComment =
      ⟨(copy.text words).dropWhile (· != '\n'), line + copy.lines⟩ := by
    intro words
    simp only [Copy.cursor, Copy.text_cons (show '#' ≠ '\n' by decide), Cursor.skipComment]
  by_cases opened : text.head? = some '#'
  · obtain ⟨words, rfl⟩ := List.head?_eq_some_iff.1 opened
    rw [copied]
    simp only [Cursor.skipComment]
    obtain ⟨span, inside, oneLine, rfl | ⟨rest, rfl⟩ | ⟨char, rest, notFeed, ends, _⟩⟩ :=
      span_cases (· != '\n') rfl words
    · have nothing := dropWhile_of_stops inside stops_nil
      rw [List.append_nil] at nothing
      rw [Copy.text_of_oneLine oneLine, nothing]
      exact .inl rfl
    · have stops : ∀ later, Stops (· != '\n') ('\n' :: later) := fun _ => stops_cons rfl
      rw [Copy.text_append, Copy.text_of_oneLine oneLine, Copy.text_feed,
        List.dropWhile_append_of_pos inside, dropWhile_of_stops inside (stops _)]
      cases copy.ending with
      | feed => exact .inr ⟨rest, line, rfl, rfl⟩
      | returnFeed => exact .inr ⟨rest, line, rfl, rfl⟩
    · simp [notFeed] at ends
  · have unopened : ∀ cursor : Cursor, cursor.rest.head? ≠ some '#' →
        cursor.skipComment = cursor := by
      intro cursor unopened
      unfold Cursor.skipComment
      split
      · next rest hash => simp [hash] at unopened
      · rfl
    have copied := mt (@Copy.head?_text_iff copy text '#' (by decide) (by decide)).1 opened
    refine .inl ?_
    rw [unopened ⟨text, line⟩ opened, unopened (copy.cursor ⟨text, line⟩) copied]

/-- Where a line feed ends the line, the carriage return that may come before it is skipped. -/
theorem skipReturn_copy (suits : copy.Suits original) (within : position.Within original) :
    copy.AtFeed position.skipReturn (copy.cursor position).skipReturn ∨
      position.skipReturn.rest.head? ≠ some '\n' ∧
        (copy.cursor position).skipReturn = copy.cursor position.skipReturn := by
  obtain ⟨text, line⟩ := position
  cases ending : copy.ending with
  | feed =>
      -- A carriage return can only be one of the text itself.
      have same : (copy.cursor ⟨text, line⟩).skipReturn =
          copy.cursor (Cursor.skipReturn ⟨text, line⟩) := by
        simp only [Copy.cursor, Copy.text_of_feed ending, Cursor.skipReturn]
        split
        · rfl
        · rfl
      by_cases feed : (Cursor.skipReturn ⟨text, line⟩).rest.head? = some '\n'
      · obtain ⟨rest, feed⟩ := List.head?_eq_some_iff.1 feed
        refine .inl ⟨rest, (Cursor.skipReturn ⟨text, line⟩).line, ?_, ?_⟩
        · rw [← feed]
        · rw [same]
          simp only [Copy.cursor, Copy.text_of_feed ending, feed]
      · exact .inr ⟨feed, same⟩
  | returnFeed =>
      have noReturn : '\r' ∉ text := fun member => (suits ending).noReturn (within.mem member)
      cases text with
      | nil => exact .inr ⟨by simp [Cursor.skipReturn], rfl⟩
      | cons char rest =>
          by_cases feed : char = '\n'
          · subst feed
            refine .inl ⟨rest, line, rfl, ?_⟩
            simp only [Copy.cursor, Copy.text_feed, ending]
            rfl
          · have other : char ≠ '\r' := by
              rintro rfl
              exact noReturn List.mem_cons_self
            refine .inr ⟨?_, ?_⟩
            · simp [Cursor.skipReturn, other, feed]
            · simp [Copy.cursor, Copy.text_cons feed, Cursor.skipReturn, other]

/-- The end of a line is reached in the copy as it is in the text. -/
theorem lineEnd_copy (suits : copy.Suits original) (within : position.Within original) :
    copy.AtFeed position.skipInline.skipComment.skipReturn
        (copy.cursor position).skipInline.skipComment.skipReturn ∨
      position.skipInline.skipComment.skipReturn.rest.head? ≠ some '\n' ∧
        (copy.cursor position).skipInline.skipComment.skipReturn =
          copy.cursor position.skipInline.skipComment.skipReturn := by
  have inside : position.skipInline.skipComment.Within original := within.of_passes
    ((Cursor.passes_skipInline position).trans (Cursor.passes_skipComment _))
  rw [Copy.skipInline]
  rcases @skipComment_copy copy position.skipInline with same | ⟨rest, line, feed, copied⟩
  · rw [same]
    exact skipReturn_copy suits inside
  · rw [feed, copied]
    exact .inl ⟨rest, line, rfl, rfl⟩

/-- A line ends in the copy as it does in the text. -/
theorem finishLine_copy (suits : copy.Suits original) (within : position.Within original)
    (content : LineContent) {α β : Type} {change : α → β} (value : α) :
    copy.Agrees apart change ((position.finishLine content).map fun after => (value, after))
      (((copy.cursor position).finishLine content).map fun after => (change value, after)) := by
  simp only [Cursor.finishLine_eq]
  rcases lineEnd_copy suits within with ⟨rest, line, feed, copied⟩ | ⟨notFeed, same⟩
  · rw [feed, copied]
    have further : (⟨'\n' :: copy.text rest, line + copy.lines⟩ : Cursor).advance 1 =
        copy.cursor ⟨rest, line + 1⟩ := by
      simp [Cursor.advance, Copy.cursor, Nat.add_right_comm]
    simp only [further]
    exact .found value ⟨rest, line + 1⟩
  · rw [same]
    generalize position.skipInline.skipComment.skipReturn = ended at notFeed
    have nothing : (copy.cursor ended).rest = [] ↔ ended.rest = [] := Copy.text_eq_nil_iff
    have copiedFeed : (copy.cursor ended).rest.head? ≠ some '\n' := by
      rcases copy.head?_text ended.rest with alike | ⟨_, feed, _⟩
      · rwa [Copy.cursor_rest, alike]
      · exact (notFeed feed).elim
    simp only [nothing, if_neg notFeed, if_neg copiedFeed]
    by_cases empty : ended.rest = []
    · rw [if_pos empty, if_pos empty]
      exact .found value ended
    · rw [if_neg empty, if_neg empty]
      exact .fault _ _

/-! ## Headers -/

theorem readHeader_doubled {cursor : Cursor} (doubled : (cursor.advance 1).rest.head? = some '[') :
    readHeader cursor = .error ((cursor.advance 1).fault .doubleBracketHeader) := by
  simp only [readHeader, Cursor.peek?, doubled, if_true]

theorem readHeader_unclosed {cursor : Cursor} (single : (cursor.advance 1).rest.head? ≠ some '[')
    (unclosed : ((cursor.advance 1).rest.dropWhile (isBefore ']')).head? ≠ some ']') :
    readHeader cursor = .error ((cursor.advance 1).fault (.unclosedHeader
      (String.ofList (strip ((cursor.advance 1).rest.takeWhile (isBefore ']')))))) := by
  simp only [readHeader, Cursor.peek?, if_neg single, takeWhile_isBefore,
    drop_length_takeWhile]
  split
  · next rest closed => simp [closed] at unclosed
  · rfl

theorem readHeader_closed {cursor : Cursor} {span rest : List Char}
    (single : (cursor.advance 1).rest.head? ≠ some '[')
    (closed : (cursor.advance 1).rest = span ++ ']' :: rest)
    (inside : ∀ char ∈ span, isBefore ']' char = true) :
    readHeader cursor =
      if strip span = [] then .error ((cursor.advance 1).fault .emptyHeader)
      else (Cursor.finishLine ⟨rest, (cursor.advance 1).line⟩
        (.header (String.ofList (strip span)))).map
          fun after => (String.ofList (strip span), after) := by
  have stops : Stops (isBefore ']') (']' :: rest) := stops_cons rfl
  simp only [readHeader, Cursor.peek?, if_neg single, takeWhile_isBefore,
    drop_length_takeWhile]
  rw [closed, takeWhile_of_stops inside stops, dropWhile_of_stops inside stops]
  simp

theorem readHeader_copy (suits : copy.Suits original) (within : position.Within original)
    (opened : position.rest.head? = some '[') :
    copy.Agrees apart id (readHeader position) (readHeader (copy.cursor position)) := by
  have step := @Copy.advance_one copy _ _ opened (by decide)
  have doubled := @Copy.head?_text_iff copy (position.advance 1).rest '[' (by decide) (by decide)
  by_cases single : (position.advance 1).rest.head? = some '['
  · rw [readHeader_doubled single, readHeader_doubled (by rw [step]; exact doubled.2 single), step]
    exact .fault _ _
  have copiedSingle : ((copy.cursor position).advance 1).rest.head? ≠ some '[' := by
    rw [step]
    exact mt doubled.1 single
  rcases @closing_cases copy ']' (by decide) (by decide) (position.advance 1).rest with
    ⟨span, rest, closed, inside⟩ | ⟨unclosed, copied, carriage, possible, spans⟩
  · have oneLine : '\n' ∉ span := fun member => absurd (inside _ member) (by decide)
    have copiedClosed :
        ((copy.cursor position).advance 1).rest = span ++ ']' :: copy.text rest := by
      rw [step, Copy.cursor_rest, closed, Copy.text_append, Copy.text_of_oneLine oneLine,
        Copy.text_cons (by decide)]
    rw [readHeader_closed single closed inside, readHeader_closed copiedSingle copiedClosed inside,
      step]
    refine .ite (fun _ => .fault _ _) fun _ => ?_
    have inside : Cursor.Within ⟨rest, (position.advance 1).line⟩ original := by
      refine within.of_passes ((Cursor.passes_advance position 1).trans ?_)
      refine Cursor.passes_of_append (span ++ [']']) ?_ rfl ?_
      · rw [closed]
        simp
      · simp [oneLine]
    exact finishLine_copy suits inside _ _
  · have copiedUnclosed : (((copy.cursor position).advance 1).rest.dropWhile
        (isBefore ']')).head? ≠ some ']' := by
      rw [step]
      exact copied
    have blank : strip ((position.advance 1).rest.takeWhile (isBefore ']') ++ carriage) =
        strip ((position.advance 1).rest.takeWhile (isBefore ']')) := by
      obtain rfl | rfl : carriage = [] ∨ carriage = ['\r'] := by simpa using possible
      · rw [List.append_nil]
      · exact strip_append_blank (by decide) _
    rw [readHeader_unclosed single unclosed, readHeader_unclosed copiedSingle copiedUnclosed, step,
      Copy.cursor_rest, spans, blank]
    exact .fault _ _

/-! ## Lines -/

section Lines

variable [CallStack]

theorem readAssignment_copy (suits : copy.Suits original) (within : position.Within original) :
    copy.Agrees (Stage.assignment.MeetsEscape position) id (readAssignment position)
      (readAssignment (copy.cursor position)) := by
  rw [readAssignment_eq, readAssignment_eq]
  refine (readKey_copy suits within).bind fun key middle named => ?_
  simp only [Copy.skipInline, Copy.cursor_rest, Copy.head?_text_iff, ne_eq, Char.reduceEq,
    not_false_eq_true]
  refine .ite (fun assigned => ?_) fun _ => .fault _ _
  rw [Copy.advance_one assigned (by decide), Copy.skipInline]
  have inside := within.of_passes
    ((readKey_passesSome named).1.trans (Cursor.passes_separator middle))
  refine ((readValue_copy suits inside).mono fun _ met =>
    .later (.assigned named assigned) met).bind fun value stopped found => ?_
  exact finishLine_copy suits (inside.of_passes (readValue_passesSome found).1) _ _

/-- The lines of a copy are those of the text further down. -/
theorem readLine_copy (suits : copy.Suits original) (within : position.Within original) :
    copy.Agrees ((Stage.round .lines).MeetsEscape position) (Next.map (Line.moved copy.lines))
      (readLine position) (readLine (copy.cursor position)) := by
  have inside := within.of_passes (Cursor.passes_skipFiller position)
  simp only [readLine_eq, Copy.skipFiller, Copy.cursor_rest, Copy.text_eq_nil_iff,
    Copy.head?_text_iff, ne_eq, Char.reduceEq, not_false_eq_true]
  refine .ite (fun _ => .found _ _) fun goesOn => .ite (fun header => ?_) fun notHeader => ?_
  · exact (readHeader_copy suits inside header).map fun _ _ => .found _ _
  · exact ((readAssignment_copy suits inside).mono fun _ met =>
      .later (.line goesOn notHeader) met).map fun _ _ => .found _ _

/-- Where the lines of a text and of its copy have a fault on one line, it is met in the escapes of
a long text that reading comes to. -/
theorem readLines_copy (suits : copy.Suits original) :
    Items.Agrees copy ((Stage.rounds .lines).MeetsEscape (Cursor.start original))
      (Line.moved copy.lines) (· = []) (readLines original)
      (many readLine (copy.cursor (Cursor.start original))) := by
  have whole : (Cursor.start original).Within original := List.suffix_rfl
  exact many_copy_of_agrees (Cursor.start original) progressive_readLine progressive_readLine
    fun reaches => (readLine_copy suits (whole.of_passes (reaches.passes
      progressive_readLine))).mono fun _ met => .rounds reaches met

end Lines

/-! ## Documents -/

theorem entriesIn_moved (lines : Nat) (current : String) (items : List Line) :
    entriesIn current (items.map (Line.moved lines)) =
      (entriesIn current items).map (Entry.moved lines) := by
  induction items generalizing current with
  | nil => rfl
  | cons line items induction =>
      cases line with
      | header name line => exact induction name
      | assignment key value line =>
          simp only [List.map_cons, Line.moved, entriesIn, induction]
          rfl

/-- The header that declares a section again is the same one further down. -/
theorem repeatedHeader?_moved (lines : Nat) (declared : List String) (items : List Line) :
    repeatedHeader? declared (items.map (Line.moved lines)) =
      (repeatedHeader? declared items).map fun fault => ⟨fault.cause, fault.line + lines⟩ := by
  induction items generalizing declared with
  | nil => rfl
  | cons line items induction =>
      cases line with
      | header name line =>
          simp only [List.map_cons, Line.moved, repeatedHeader?, induction]
          split
          · rfl
          · rfl
      | assignment key value line => exact induction declared

/-- The lines of a copy make the same document further down. -/
theorem ofLines_copy {items others : Items Line}
    (agrees : Items.Agrees copy apart (Line.moved copy.lines) (· = []) items others) :
    match ofLines items with
    | .ok document => ofLines others = .ok (document.moved copy.lines)
    | .error fault =>
        ∃ other, ofLines others = .error other ∧ copy.Reports apart fault other := by
  cases agrees with
  | finished lines after =>
      simp only [ofLines, repeatedHeader?_moved]
      cases repeatedHeader? [] lines with
      | none => simp only [Option.map_none, headerNames_map_moved, entriesIn_moved, moved]
      | some fault => exact ⟨_, rfl, .moved fault.cause fault.line⟩
  | failed lines nothing reports =>
      subst nothing
      simp only [ofLines, List.append_nil, repeatedHeader?_moved]
      cases repeatedHeader? [] lines with
      | none => exact ⟨_, rfl, reports⟩
      | some fault => exact ⟨_, rfl, .moved fault.cause fault.line⟩

end Document

end VersionCatalog
