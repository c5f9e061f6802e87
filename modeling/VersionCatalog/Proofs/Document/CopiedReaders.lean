import VersionCatalog.Proofs.Document.Copy
import VersionCatalog.Proofs.Document.EscapeFaults

/-!
# Readers on a copy

What is read from a text is read from its copies too, and what cannot be read there cannot be read
from them. Between double quotes the runs do not go in step where lines end with a carriage return:
the copy takes the carriage return before it meets the line feed that ends the run.
-/

namespace VersionCatalog.Document

open Text

variable {copy : Copy} {original : List Char} {position : Cursor} {apart : Fault → Prop}

/-- Where escapes stand, lines end in the copy as they did. -/
theorem Copy.Suits.feed_of_escape (suits : copy.Suits original) (escape : '\\' ∈ original) :
    copy.ending = .feed := by
  cases ending : copy.ending with
  | feed => rfl
  | returnFeed => exact ((suits ending).noEscape escape).elim

/-- Where three quotes stand in a row, lines end in the copy as they did. -/
theorem Copy.Suits.feed_of_quotes (suits : copy.Suits original)
    (within : position.Within original) {quote : Char} (known : quote ∈ ['"', '\''])
    (opened : [quote, quote, quote].isPrefixOf position.rest = true) : copy.ending = .feed := by
  cases ending : copy.ending with
  | feed => rfl
  | returnFeed =>
      have opens := (List.isPrefixOf_iff_prefix.1 opened).isInfix
      exact ((suits ending).noLongText quote known (opens.trans within.isInfix)).elim

/-! ## Quoted texts -/

theorem readEscape_copy (ending : copy.ending = .feed) (position : Cursor) :
    copy.Agrees apart id (readEscape position) (readEscape (copy.cursor position)) := by
  simp only [readEscape, Copy.cursor_rest, Copy.text_of_feed ending]
  split
  · exact .found _ _
  · next marker rest opened =>
      rw [Copy.advance_of_feed ending position 1, Copy.cursor_rest, Copy.text_of_feed ending]
      split
      · exact .found _ _
      · split
        · exact .found _ _
        · rw [Copy.advance_of_feed ending]
          split
          · exact .found _ _
          · exact .fault _ _

/-- A quoted text is not closed where the line or the text ends. -/
theorem readBasicPart_end {opening : Nat} {cursor : Cursor}
    (ended : cursor.rest = [] ∨ cursor.rest.head? = some '\n') :
    readBasicPart opening cursor = .error ⟨.unclosedString, opening⟩ := by
  rcases ended with ended | ended
  · simp only [readBasicPart, ended]
  · obtain ⟨rest, ended⟩ := List.head?_eq_some_iff.1 ended
    simp only [readBasicPart, ended]

/-- The next characters between double quotes are the same in the copy, unless the line ends. -/
theorem readBasicPart_copy (suits : copy.Suits original) (within : position.Within original)
    (opening : Nat) (goesOn : position.rest.head? ≠ some '\n') :
    copy.Agrees apart (Next.map id) (readBasicPart opening position)
      (readBasicPart (opening + copy.lines) (copy.cursor position)) := by
  cases opened : position.rest with
  | nil =>
      rw [readBasicPart_end (.inl opened), readBasicPart_end (.inl (by simp [opened]))]
      exact .fault_at _ _
  | cons char rest =>
      have notFeed : char ≠ '\n' := by simpa [opened] using goesOn
      have next : position.rest.head? = some char := by rw [opened]; rfl
      have copied : (copy.cursor position).rest.head? = some char := by
        rw [Copy.cursor_rest, opened, Copy.text_cons notFeed]
        rfl
      by_cases quote : char = '"'
      · subst quote
        rw [readBasicPart_quote next, readBasicPart_quote copied, Copy.advance_one next notFeed]
        exact .found _ _
      · by_cases escape : char = '\\'
        · subst escape
          have ending := suits.feed_of_escape (within.mem (List.mem_of_mem_head? next))
          rw [readBasicPart_escape next, readBasicPart_escape copied,
            Copy.advance_one next notFeed]
          exact (readEscape_copy ending _).map fun _ _ => .found _ _
        · rw [readBasicPart_plain next notFeed quote escape,
            readBasicPart_plain copied notFeed quote escape, Copy.advance_one next notFeed]
          exact .found _ _

/-- Where the line ends, a carriage return may be taken before the fault is met. -/
theorem many_readBasicPart_feed {opening : Nat} (feed : position.rest.head? = some '\n') :
    ∃ others, many (readBasicPart opening) (copy.cursor position) =
      ⟨others, .error ⟨.unclosedString, opening⟩⟩ := by
  obtain ⟨rest, opened⟩ := List.head?_eq_some_iff.1 feed
  have copied : (copy.cursor position).rest = copy.ending.text ++ copy.text rest := by
    rw [Copy.cursor_rest, opened, Copy.text_feed]
  rw [many_eq (progressive_readBasicPart opening)]
  cases ending : copy.ending with
  | feed =>
      rw [readBasicPart_end (.inr (by rw [copied, ending]; rfl))]
      exact ⟨[], rfl⟩
  | returnFeed =>
      rw [ending] at copied
      have ended : ((copy.cursor position).advance 1).rest.head? = some '\n' := by
        simp only [Cursor.advance, copied]
        rfl
      have failed : many (readBasicPart opening) ((copy.cursor position).advance 1) =
          ⟨[], .error ⟨.unclosedString, opening⟩⟩ := by
        rw [many_eq (progressive_readBasicPart opening), readBasicPart_end (.inr ended)]
      rw [readBasicPart_plain (by rw [copied]; rfl) (by decide) (by decide) (by decide)]
      simp only [failed]
      exact ⟨[['\r']], rfl⟩

theorem readBasic_copy (suits : copy.Suits original) (within : position.Within original)
    (opened : position.rest.head? = some '"') :
    copy.Agrees apart id (readBasic position) (readBasic (copy.cursor position)) := by
  have inside : (position.advance 1).Within original :=
    within.of_passes (Cursor.passes_advance position 1)
  have parts : Items.Agrees copy apart id (fun _ => True)
      (many (readBasicPart position.line) (position.advance 1))
      (many (readBasicPart (position.line + copy.lines)) (copy.cursor (position.advance 1))) := by
    refine many_copy (progressive_readBasicPart _) (progressive_readBasicPart _) ?_ ?_
    · intro reached after item reaches read
      have passes := reaches.passes (progressive_readBasicPart _)
      have goesOn : reached.rest.head? ≠ some '\n' := by
        intro feed
        rw [readBasicPart_end (.inr feed)] at read
        cases read
      have step : copy.Agrees apart _ _ _ :=
        readBasicPart_copy suits (inside.of_passes passes) position.line goesOn
      rw [read] at step
      exact step.found_inv
    · intro reached fault reaches read
      have passes := reaches.passes (progressive_readBasicPart _)
      by_cases feed : reached.rest.head? = some '\n'
      · -- The copy may fail one part later here, after the carriage return.
        rw [readBasicPart_end (.inr feed)] at read
        cases read
        obtain ⟨others, same⟩ := many_readBasicPart_feed feed
        exact ⟨others, _, trivial, same, .moved _ _⟩
      · have step : copy.Agrees apart _ _ _ :=
          readBasicPart_copy suits (inside.of_passes passes) position.line feed
        rw [read] at step
        obtain ⟨other, same, reports⟩ := step.failed_inv
        rw [many_eq (progressive_readBasicPart _), same]
        exact ⟨[], other, trivial, rfl, reports⟩
  rw [readBasic, readBasic, Copy.advance_one opened (by decide)]
  refine parts.result.map fun value after => ?_
  rw [List.map_id]
  exact .found _ _

theorem readLiteral_unclosed {cursor : Cursor}
    (unclosed : ((cursor.advance 1).rest.dropWhile (isBefore '\'')).head? ≠ some '\'') :
    readLiteral cursor = .error ⟨.unclosedString, cursor.line⟩ := by
  simp only [readLiteral, takeWhile_isBefore, drop_length_takeWhile]
  split
  · next rest closed => simp [closed] at unclosed
  · rfl

theorem readLiteral_copy (opened : position.rest.head? = some '\'') :
    copy.Agrees apart id (readLiteral position) (readLiteral (copy.cursor position)) := by
  have step := @Copy.advance_one copy _ _ opened (by decide)
  rcases @closing_cases copy '\'' (by decide) (by decide) (position.advance 1).rest with
    ⟨span, rest, closed, inside⟩ | ⟨unclosed, copied, _⟩
  · have oneLine : '\n' ∉ span := fun member => absurd (inside _ member) (by decide)
    have found : readLiteral position = .ok (span, ⟨rest, (position.advance 1).line⟩) :=
      readLiteral_eq_ok_iff.2 ⟨closed, inside, rfl⟩
    have copied : readLiteral (copy.cursor position) =
        .ok (span, copy.cursor ⟨rest, (position.advance 1).line⟩) := by
      refine readLiteral_eq_ok_iff.2 ⟨?_, inside, ?_⟩
      · rw [step, Copy.cursor_rest, closed, Copy.text_append, Copy.text_of_oneLine oneLine,
          Copy.text_cons (by decide)]
        rfl
      · rw [step]
        rfl
    rw [found, copied]
    exact .found _ _
  · rw [readLiteral_unclosed unclosed, readLiteral_unclosed (by rw [step]; exact copied)]
    exact .fault_at _ _

/-- The escapes between three double quotes are read apart, so that their fault stays where it was
met. -/
theorem readLong_copy [CallStack] (ending : copy.ending = .feed) {quote : Char}
    (opened : [quote, quote, quote].isPrefixOf position.rest = true) :
    copy.Agrees ((Stage.long quote).MeetsEscape position) id (readLong quote position)
      (readLong quote (copy.cursor position)) := by
  simp only [readLong, Copy.advance_of_feed ending, Copy.cursor_rest, Copy.text_of_feed ending]
  split
  · exact .fault_at _ _
  · next content rest found =>
      split
      · next double =>
          cases known : unescape content with
          | ok unescaped => exact .found _ _
          | error fault =>
              -- The line of the fault is counted from the quotes, so that it is not moved.
              subst double
              exact .failed (.kept (.escapes opened found known))
      · exact .found _ _

/-! ## Keys -/

theorem readKeyPart_unnamed {cursor : Cursor} (notDouble : cursor.rest.head? ≠ some '"')
    (notSingle : cursor.rest.head? ≠ some '\'') (unwritten : cursor.rest.takeWhile isKeyChar = []) :
    readKeyPart cursor = .error (cursor.fault (.missingKey cursor.rest.head?)) := by
  simp only [readKeyPart]
  split
  · next rest opened => simp [opened] at notDouble
  · next rest opened => simp [opened] at notSingle
  · rw [if_pos (by simpa using unwritten)]
    rfl

theorem readKeyPart_copy (suits : copy.Suits original) (within : position.Within original) :
    copy.Agrees apart id (readKeyPart position) (readKeyPart (copy.cursor position)) := by
  by_cases double : position.rest.head? = some '"'
  · rw [readKeyPart_double double,
      readKeyPart_double ((Copy.head?_text_iff (by decide) (by decide)).2 double)]
    exact readBasic_copy suits within double
  by_cases single : position.rest.head? = some '\''
  · rw [readKeyPart_single single,
      readKeyPart_single ((Copy.head?_text_iff (by decide) (by decide)).2 single)]
    exact readLiteral_copy single
  have copiedDouble := mt (@Copy.head?_text_iff copy _ '"' (by decide) (by decide)).1 double
  have copiedSingle := mt (@Copy.head?_text_iff copy _ '\'' (by decide) (by decide)).1 single
  have word := (@span_copy copy isKeyChar rfl rfl position.rest).1
  by_cases written : position.rest.takeWhile isKeyChar = []
  · rw [readKeyPart_unnamed double single written,
      readKeyPart_unnamed copiedDouble copiedSingle (word.trans written), Copy.cursor_rest]
    rcases copy.head?_text position.rest with same | ⟨ending, feed, carriage⟩
    · rw [same]
      exact .fault _ _
    · rw [feed, carriage]
      exact .failed (.returned ending position.line)
  · rw [readKeyPart_word double single written,
      readKeyPart_word copiedDouble copiedSingle (by rw [Copy.cursor_rest, word]; exact written)]
    have oneLine : '\n' ∉ position.rest.takeWhile isKeyChar := Cursor.notMem_takeWhile rfl _
    rw [Copy.cursor_rest, word, Copy.advance_span
      (List.takeWhile_append_dropWhile (p := isKeyChar)).symm oneLine]
    exact .found _ _

theorem readDottedPart_copy (suits : copy.Suits original) (within : position.Within original) :
    copy.Agrees apart (Next.map id) (readDottedPart position)
      (readDottedPart (copy.cursor position)) := by
  have same := @Copy.head?_text_iff copy position.skipInline.rest '.' (by decide) (by decide)
  by_cases dotted : position.skipInline.rest.head? = some '.'
  · rw [readDottedPart_dot dotted,
      readDottedPart_dot (by rw [Copy.skipInline]; exact same.2 dotted), Copy.skipInline,
      Copy.advance_one dotted (by decide), Copy.skipInline]
    have inside := within.of_passes (Cursor.passes_separator position)
    exact (readKeyPart_copy suits inside).map fun _ _ => .found _ _
  · rw [readDottedPart_stop dotted,
      readDottedPart_stop (by rw [Copy.skipInline]; exact mt same.1 dotted), Copy.skipInline]
    exact .found _ _

theorem readKey_eq (cursor : Cursor) :
    readKey cursor = (readKeyPart cursor).bind fun first =>
      (many readDottedPart first.2).result.map fun others =>
        (String.ofList (['.'].intercalate (first.1 :: others.1)), others.2) := by
  simp only [readKey]
  cases readKeyPart cursor with
  | error fault => rfl
  | ok first => rfl

theorem readKey_copy (suits : copy.Suits original) (within : position.Within original) :
    copy.Agrees apart id (readKey position) (readKey (copy.cursor position)) := by
  rw [readKey_eq, readKey_eq]
  refine (readKeyPart_copy suits within).bind fun first middle opened => ?_
  have inside := within.of_passes (readKeyPart_passesSome opened).1
  have others : Items.Agrees copy apart id (· = []) _ _ := many_copy_of_agrees middle
    progressive_readDottedPart progressive_readDottedPart fun reaches =>
      readDottedPart_copy suits (inside.of_passes (reaches.passes progressive_readDottedPart))
  refine others.result.map fun parts after => ?_
  rw [List.map_id]
  exact .found _ _

/-! ## Texts and arrays -/

theorem readBareWord_copy (position : Cursor) :
    copy.Agrees apart id (readBareWord position) (readBareWord (copy.cursor position)) := by
  have span := (@span_copy copy (fun char => !endsBareWord char) rfl rfl position.rest).1
  have oneLine : '\n' ∉ position.rest.takeWhile fun char => !endsBareWord char :=
    Cursor.notMem_takeWhile rfl _
  have passed := @Copy.advance_span copy position _ _
    (List.takeWhile_append_dropWhile (p := fun char => !endsBareWord char)).symm oneLine
  simp only [readBareWord, Copy.cursor_rest, span, passed]
  refine .ite (fun _ => .fault _ _) fun _ => ?_
  exact .ite (fun _ => .found _ _) fun _ => .fault _ _

section Texts

variable [CallStack]

theorem readText_copy (suits : copy.Suits original) (within : position.Within original) :
    copy.Agrees (Stage.text.MeetsEscape position) id (readText position)
      (readText (copy.cursor position)) := by
  rw [readText_eq, readText_eq, Copy.cursor_rest, Copy.isPrefixOf_text (by decide) (by decide),
    Copy.isPrefixOf_text (by decide) (by decide)]
  simp only [Copy.head?_text_iff (show '"' ≠ '\n' by decide) (show '"' ≠ '\r' by decide),
    Copy.head?_text_iff (show '\'' ≠ '\n' by decide) (show '\'' ≠ '\r' by decide)]
  refine (?_ : copy.Agrees (Stage.text.MeetsEscape position) id _ _).map fun _ _ => .found _ _
  refine .ite (fun opens => ?_) fun _ => .ite (fun opens => ?_) fun _ => ?_
  · exact (readLong_copy (suits.feed_of_quotes within (by simp) opens) opens).mono
      fun _ met => .later (.long opens) met
  · exact (readLong_copy (suits.feed_of_quotes within (by simp) opens) opens).mono
      fun _ met => (Stage.not_meetsEscape_single met).elim
  · refine .ite (fun double => readBasic_copy suits within double) fun _ => ?_
    exact .ite (fun single => readLiteral_copy single) fun _ => readBareWord_copy position

end Texts

section Arrays

variable [CallStack]

theorem readItem_copy (suits : copy.Suits original) (within : position.Within original)
    (opening : Nat) :
    copy.Agrees ((Stage.round (.items opening)).MeetsEscape position) (Next.map id)
      (readItem opening position) (readItem (opening + copy.lines) (copy.cursor position)) := by
  have inside := within.of_passes (Cursor.passes_skipFiller position)
  simp only [readItem_eq, Copy.skipFiller, Copy.cursor_rest, Copy.text_eq_nil_iff,
    Copy.head?_text_iff, ne_eq, Char.reduceEq, not_false_eq_true]
  refine .ite (fun _ => .fault_at _ _) fun goesOn => .ite (fun closed => ?_) fun unclosed => ?_
  · rw [Copy.advance_one closed (by decide)]
    exact .found _ _
  refine .ite (fun _ => .fault _ _) fun single => ?_
  refine ((readText_copy suits inside).mono fun _ met =>
    .later (.item goesOn unclosed single) met).bind fun item after _ => ?_
  simp only [Copy.skipFiller, Copy.cursor_rest, Copy.text_eq_nil_iff, Copy.head?_text_iff, ne_eq,
    Char.reduceEq, not_false_eq_true]
  refine .ite (fun separated => ?_) fun _ => .ite (fun closed => ?_) fun _ => ?_
  · rw [Copy.advance_one separated (by decide)]
    exact .found _ _
  · rw [Copy.advance_one closed (by decide)]
    exact .found _ _
  · exact .ite (fun _ => .fault_at _ _) fun _ => .fault _ _

theorem readArray_copy (suits : copy.Suits original) (within : position.Within original)
    (opened : position.rest.head? = some '[') :
    copy.Agrees (Stage.array.MeetsEscape position) id (readArray position)
      (readArray (copy.cursor position)) := by
  have inside := within.of_passes (Cursor.passes_advance position 1)
  have items : Items.Agrees copy (Stage.array.MeetsEscape position) id (· = []) _ _ :=
    many_copy_of_agrees (position.advance 1) (progressive_readItem _) (progressive_readItem _)
      fun reaches => (readItem_copy suits (inside.of_passes (reaches.passes
        (progressive_readItem _))) position.line).mono fun _ met =>
          .later (.items position) (.rounds reaches met)
  have read := items.result
  rw [List.map_id_fun] at read
  rw [readArray, readArray, Copy.advance_one opened (by decide)]
  exact read

end Arrays

end VersionCatalog.Document
