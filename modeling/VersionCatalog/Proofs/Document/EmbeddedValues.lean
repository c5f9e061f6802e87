import VersionCatalog.Proofs.Document.EmbeddedReaders
import VersionCatalog.Proofs.Document.Lines

/-!
# Values and lines in a text that goes on

The same for values, by induction on how deeply tables may be nested, and for lines. A line
that the end of the text ended takes the line break that follows in the longer text; since that is
filler before the next line, the lines after it do not change.
-/

namespace VersionCatalog.Document

open Text

variable {later : List Char} {lines : Nat}

/-! ## Tables -/

section Table

variable {readNode : Reader Node}

theorem readField_embed {opening other : Nat} {cursor after : Cursor}
    {item : Next (String × Node)} (breaks : BreaksLine later)
    (carries : ∀ {reached stopped : Cursor} {node : Node},
      readNode reached = .ok (node, stopped) →
      readNode (reached.embed later lines) = .ok (node, stopped.embed later lines))
    (read : readField readNode opening cursor = .ok (item, after))
    (goesOn : ∀ field, item = .more field → after.rest ≠ []) :
    readField readNode other (cursor.embed later lines) =
      .ok (item, after.embed later lines) := by
  obtain ⟨name, value, middle, stopped, named, assigned, found, ended⟩ := readField_cases read
  have equals := Cursor.ne_nil_of_head? assigned
  have assignedLater : (middle.embed later lines).skipInline.rest.head? = some '=' := by
    rw [Cursor.skipInline_embed breaks, Cursor.head?_embed equals, assigned]
  have foundLater : readNode ((middle.embed later lines).skipInline.advance 1).skipInline =
      .ok (value, stopped.embed later lines) := by
    rw [Cursor.skipInline_embed breaks, Cursor.advance_one_embed equals,
      Cursor.skipInline_embed breaks]
    exact carries found
  have continued := @readField_value _ other _ _ _ _ _ (readKey_embed breaks named)
    assignedLater foundLater
  have behind : stopped.skipFiller.rest ≠ [] := by
    rcases ended with ⟨closed, _⟩ | ⟨separated, _⟩ | ⟨separated, _⟩
    · exact Cursor.ne_nil_of_head? closed
    · exact Cursor.ne_nil_of_head? separated
    · exact Cursor.ne_nil_of_head? separated
  have filler := @Cursor.skipFiller_embed_of_ne_nil later lines stopped breaks behind
  rw [filler, Cursor.head?_embed behind, Cursor.advance_one_embed behind] at continued
  rcases ended with ⟨closed, rfl, rfl⟩ | ⟨separated, closed, rfl, rfl⟩ |
    ⟨separated, unclosed, rfl, rfl⟩
  · exact continued.1 closed
  · have last := Cursor.ne_nil_of_head? closed
    rw [continued.2 separated, Cursor.skipFiller_embed_of_ne_nil breaks last,
      Cursor.head?_embed last, if_pos closed, Cursor.advance_one_embed last]
  · have next := goesOn _ rfl
    rw [continued.2 separated, Cursor.skipFiller_embed_of_ne_nil breaks next,
      Cursor.head?_embed next, if_neg unclosed]

theorem ne_nil_of_reads_readField {opening : Nat} {cursor after : Cursor}
    {fields : List (String × Node)}
    (reads : Reads (readField readNode opening) cursor fields after) : cursor.rest ≠ [] := by
  intro empty
  cases reads with
  | stop read => simp [readField, empty] at read
  | last read => simp [readField, empty] at read
  | more read => simp [readField, empty] at read

theorem readTable_embed {cursor after : Cursor} {fields : List (String × Node)}
    (breaks : BreaksLine later) (opened : cursor.rest ≠ [])
    (forward : ∀ {cursor after : Cursor} {node : Node},
      readNode cursor = .ok (node, after) → cursor.Passes after)
    (carries : ∀ {reached stopped : Cursor} {node : Node},
      readNode reached = .ok (node, stopped) →
      readNode (reached.embed later lines) = .ok (node, stopped.embed later lines))
    (read : readTable readNode cursor = .ok (fields, after)) :
    readTable readNode (cursor.embed later lines) = .ok (fields, after.embed later lines) := by
  rw [readTable_eq_ok_iff forward] at read ⊢
  rw [Cursor.advance_one_embed opened]
  rcases read with ⟨closed, rfl, rfl⟩ | ⟨unclosed, reads⟩
  · have goesOn := Cursor.ne_nil_of_head? closed
    rw [Cursor.skipFiller_embed_of_ne_nil breaks goesOn, Cursor.head?_embed goesOn,
      Cursor.advance_one_embed goesOn]
    exact .inl ⟨closed, rfl, rfl⟩
  · have goesOn := ne_nil_of_reads_readField reads
    rw [Cursor.skipFiller_embed_of_ne_nil breaks goesOn, Cursor.head?_embed goesOn]
    refine .inr ⟨unclosed, ?_⟩
    refine Reads.embed (progressive_readField _ forward) ?_ (Nat.le_refl _) reads
    intro reached stopped item within read others
    refine readField_embed breaks carries read ?_
    intro field more
    obtain ⟨items, last, others⟩ := others field more
    exact ne_nil_of_reads_readField others

end Table

theorem readFlat_embed {cursor after : Cursor} {node : Node} (breaks : BreaksLine later)
    (read : readFlat cursor = .ok (node, after)) :
    readFlat (cursor.embed later lines) = .ok (node, after.embed later lines) := by
  have goesOn := (readFlat_passesSome read).ne_nil
  rw [readFlat_eq] at read ⊢
  rw [Cursor.head?_embed goesOn]
  split at read
  · next array =>
      obtain ⟨⟨items, stopped⟩, found, same⟩ := map_eq_ok_iff.1 read
      cases same
      rw [if_pos array, readArray_embed breaks goesOn found]
      rfl
  · next notArray =>
      obtain ⟨⟨content, stopped⟩, found, same⟩ := map_eq_ok_iff.1 read
      cases same
      rw [if_neg notArray, readText_embed breaks found]
      rfl

/-! ## Headers -/

theorem readHeader_embed {cursor after : Cursor} {name : String} (breaks : BreaksLine later)
    (read : readHeader cursor = .ok (name, after)) :
    ∃ further, readHeader (cursor.embed later lines) = .ok (name, further) ∧
      further.skipFiller = (after.embed later lines).skipFiller := by
  obtain ⟨span, rest, opened, oneLine, single, written, named, finished⟩ :=
    readHeader_eq_ok_iff.1 read
  have goesOn : cursor.rest ≠ [] := by
    intro empty
    simp [Cursor.advance, empty] at opened
  obtain ⟨further, finished, same⟩ := @Cursor.finishLine_embed later lines _ _ _ breaks finished
  refine ⟨further, ?_, same⟩
  rw [readHeader_eq_ok_iff, Cursor.advance_one_embed goesOn]
  refine ⟨span, rest ++ later, ?_, oneLine, single, written, named, finished⟩
  simp [opened]

/-- The line with its number counted from further lines before it. -/
def Line.moved (lines : Nat) : Line → Line
  | .header name line => .header name (line + lines)
  | .assignment key value line => .assignment key value (line + lines)

@[simp]
theorem map_moved_zero (items : List Line) : items.map (Line.moved 0) = items := by
  induction items with
  | nil => rfl
  | cons line items induction =>
      rw [List.map_cons, induction]
      cases line <;> rfl

@[simp]
theorem headerNames_map_moved (lines : Nat) (items : List Line) :
    headerNames (items.map (Line.moved lines)) = headerNames items := by
  induction items with
  | nil => rfl
  | cons line items induction => cases line <;> simp [headerNames, Line.moved, induction]

variable [CallStack]

/-! ## Values -/

theorem readValueWithin_embed {depth : Nat} {cursor after : Cursor} {node : Node}
    (breaks : BreaksLine later) (read : readValueWithin depth cursor = .ok (node, after)) :
    readValueWithin depth (cursor.embed later lines) = .ok (node, after.embed later lines) := by
  induction depth generalizing cursor after node with
  | zero =>
      have goesOn := (readValueWithin_passesSome read).ne_nil
      rw [readValueWithin_zero] at read ⊢
      rw [Cursor.head?_embed goesOn]
      split at read
      · contradiction
      · next notTable =>
          rw [if_neg notTable]
          exact readFlat_embed breaks read
  | succ depth induction =>
      have goesOn := (readValueWithin_passesSome read).ne_nil
      rw [readValueWithin_succ] at read ⊢
      rw [Cursor.head?_embed goesOn]
      split at read
      · next table =>
          obtain ⟨⟨fields, stopped⟩, found, same⟩ := map_eq_ok_iff.1 read
          cases same
          rw [if_pos table, readTable_embed breaks goesOn
            (fun read => (readValueWithin_passesSome read).1) induction found]
          rfl
      · next notTable =>
          rw [if_neg notTable]
          exact readFlat_embed breaks read

theorem readValue_embed {cursor after : Cursor} {node : Node} (breaks : BreaksLine later)
    (read : readValue cursor = .ok (node, after)) :
    readValue (cursor.embed later lines) = .ok (node, after.embed later lines) :=
  readValueWithin_embed breaks read

/-! ## Lines -/

theorem readAssignment_embed {cursor after : Cursor} {key : String} {value : Node}
    (breaks : BreaksLine later) (read : readAssignment cursor = .ok ((key, value), after)) :
    ∃ further, readAssignment (cursor.embed later lines) = .ok ((key, value), further) ∧
      further.skipFiller = (after.embed later lines).skipFiller := by
  obtain ⟨middle, stopped, named, assigned, found, finished⟩ := readAssignment_eq_ok_iff.1 read
  obtain ⟨further, finished, same⟩ := @Cursor.finishLine_embed later lines _ _ _ breaks finished
  have equals := Cursor.ne_nil_of_head? assigned
  refine ⟨further, ?_, same⟩
  refine readAssignment_eq_ok_iff.2
    ⟨middle.embed later lines, stopped.embed later lines, readKey_embed breaks named, ?_, ?_,
      finished⟩
  · rw [Cursor.skipInline_embed breaks, Cursor.head?_embed equals, assigned]
  · rw [Cursor.skipInline_embed breaks, Cursor.advance_one_embed equals,
      Cursor.skipInline_embed breaks]
    exact readValue_embed breaks found

theorem readLine_embed {cursor after : Cursor} {line : Line} (breaks : BreaksLine later)
    (read : readLine cursor = .ok (.more line, after)) :
    ∃ further, readLine (cursor.embed later lines) = .ok (.more (line.moved lines), further) ∧
      further.skipFiller = (after.embed later lines).skipFiller := by
  rcases readLine_eq_more read with ⟨name, opened, rfl, found⟩ |
    ⟨key, value, goesOn, notHeader, rfl, found⟩
  · have goesOn := Cursor.ne_nil_of_head? opened
    have filler := @Cursor.skipFiller_embed_of_ne_nil later lines cursor breaks goesOn
    obtain ⟨further, embedded, same⟩ := @readHeader_embed later lines _ _ _ breaks found
    rw [← filler] at embedded
    refine ⟨further, ?_, same⟩
    rw [readLine_header _ embedded]
    · rw [filler]
      rfl
    · rw [filler, Cursor.head?_embed goesOn, opened]
  · have filler := @Cursor.skipFiller_embed_of_ne_nil later lines cursor breaks goesOn
    obtain ⟨further, embedded, same⟩ := @readAssignment_embed later lines _ _ _ _ _ breaks found
    rw [← filler] at embedded
    refine ⟨further, ?_, same⟩
    rw [readLine_assignment _ _ embedded]
    · rw [filler]
      rfl
    · rw [filler]
      simp [goesOn]
    · rw [filler, Cursor.head?_embed goesOn]
      exact notHeader

/-- Filler before the first line makes no difference to the lines. -/
theorem Reads.congr_filler {left right after : Cursor} {items : List Line}
    (same : left.skipFiller = right.skipFiller) (reads : Reads readLine right items after) :
    Reads readLine left items after := by
  cases reads with
  | stop read => exact .stop ((readLine_congr same).trans read)
  | last read => exact .last ((readLine_congr same).trans read)
  | more read others => exact .more ((readLine_congr same).trans read) others

/-- The lines of a text are followed by those of the text that comes after it. -/
theorem Reads.append {cursor after last : Cursor} {front back : List Line}
    (breaks : BreaksLine later) (frontReads : Reads readLine cursor front after)
    (backReads : Reads readLine (after.embed later lines) back last) :
    Reads readLine (cursor.embed later lines) (front.map (Line.moved lines) ++ back) last := by
  induction frontReads with
  | stop read =>
      obtain ⟨_, rfl⟩ := readLine_eq_stop read
      exact backReads.congr_filler (Cursor.skipFiller_embed breaks)
  | last read => exact (readLine_ne_last read).elim
  | more read _ induction =>
      obtain ⟨further, embedded, same⟩ := @readLine_embed later lines _ _ _ _ breaks read
      exact .more embedded ((induction backReads).congr_filler same)

/-- The lines of a text end with the text. -/
theorem Reads.rest_eq_nil {cursor after : Cursor} {items : List Line}
    (reads : Reads readLine cursor items after) :
    after.rest = [] := by
  induction reads with
  | stop read =>
      obtain ⟨ended, rfl⟩ := readLine_eq_stop read
      exact ended
  | last read => exact (readLine_ne_last read).elim
  | more _ _ induction => exact induction

/-- A line break puts the lines of one text before those of another, which it moves down by one. -/
theorem Reads.append_line {cursor after last : Cursor} {front back : List Line} {text : List Char}
    (frontReads : Reads readLine cursor front after)
    (backReads : Reads readLine ⟨text, after.line + 1⟩ back last) :
    Reads readLine ⟨cursor.rest ++ '\n' :: text, cursor.line⟩ (front ++ back) last := by
  have breaks : BreaksLine ('\n' :: text) := by
    intro char opens
    simpa using opens.symm
  -- The line break is filler before the lines of the second text.
  have filler : (after.embed ('\n' :: text) 0).skipFiller =
      (⟨text, after.line + 1⟩ : Cursor).skipFiller := by
    simp only [Cursor.skipFiller, Cursor.embed_rest, Cursor.embed_line, frontReads.rest_eq_nil,
      List.nil_append, Cursor.skipFillerFrom, if_true, Nat.add_zero]
  have joined := frontReads.append breaks (backReads.congr_filler filler)
  rw [map_moved_zero] at joined
  exact joined

/-- A text that makes one line is read before whatever follows a line break. -/
theorem Reads.many_append_line {text : List Char} {line last : Nat} {item : Line}
    (alone : Reads readLine ⟨text, line⟩ [item] ⟨[], last⟩) (rest : List Char) :
    many readLine ⟨text ++ '\n' :: rest, line⟩ = (many readLine ⟨rest, last + 1⟩).cons item := by
  have breaks : BreaksLine ('\n' :: rest) := by
    intro char opens
    simpa using opens.symm
  cases alone with
  | last read => exact (readLine_ne_last read).elim
  | @more _ middle _ _ _ read others =>
      cases others with
      | stop ended =>
          obtain ⟨_, stopped⟩ := readLine_eq_stop ended
          obtain ⟨further, embedded, same⟩ := @readLine_embed ('\n' :: rest) 0 _ _ _ _ breaks read
          have unmoved : item.moved 0 = item := by cases item <;> rfl
          have position : (⟨text ++ '\n' :: rest, line⟩ : Cursor) =
              Cursor.embed ('\n' :: rest) 0 ⟨text, line⟩ := rfl
          have filler : further.skipFiller = (⟨rest, last + 1⟩ : Cursor).skipFiller := by
            rw [same, Cursor.skipFiller_embed breaks, ← stopped]
            rfl
          rw [position, many_eq progressive_readLine, embedded, unmoved]
          exact congrArg (Items.cons item) (many_readLine_congr filler)

/-- A text that makes one line is read before others, with line breaks between. -/
theorem Reads.intercalate_cons {text : List Char} {texts : List (List Char)} {line : Nat}
    {item : Line} {items : List Line} {last : Cursor}
    (first : Reads readLine ⟨text, line⟩ [item] ⟨[], line + text.count '\n'⟩)
    (others : Reads readLine ⟨['\n'].intercalate texts, line + text.count '\n' + 1⟩ items last) :
    ∃ final, Reads readLine ⟨['\n'].intercalate (text :: texts), line⟩ (item :: items) final := by
  cases texts with
  | nil =>
      have nothing : items = [] := others.eq_nil_of_blank (by simp)
      rw [List.intercalate_singleton, nothing]
      exact ⟨_, first⟩
  | cons second texts =>
      rw [List.intercalate_cons_cons, List.append_assoc]
      exact ⟨last, first.append_line others⟩

/-- A line feed may end the last line too. -/
theorem Reads.append_feed {text : List Char} {line : Nat} {items : List Line} {last : Cursor}
    (reads : Reads readLine ⟨text, line⟩ items last) (closed : Bool) :
    ∃ final, Reads readLine ⟨text ++ if closed then ['\n'] else [], line⟩ items final := by
  cases closed with
  | false =>
      rw [if_neg Bool.false_ne_true, List.append_nil]
      exact ⟨last, reads⟩
  | true =>
      have ended : Reads readLine ⟨[], last.line + 1⟩ [] ⟨[], last.line + 1⟩ :=
        .stop (readLine_end rfl)
      have joined := reads.append_line ended
      rw [List.append_nil] at joined
      exact ⟨_, joined⟩

end VersionCatalog.Document
