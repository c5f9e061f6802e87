import VersionCatalog.Proofs.Document.EmbeddedReaders
import VersionCatalog.Proofs.Document.WrittenKeys
import VersionCatalog.Proofs.Text.Blank

/-!
# Spellings of texts and keys

One text can be spelled in many ways: between quotes of either kind, over several lines, with
escapes, or as a bare word. Whichever way it is, characters that are read as the text alone are read
as it where blanks and a mark follow. The blanks after a bare word are taken with it, those after a
quote are not; both are passed over by what is read next.
-/

namespace VersionCatalog.Document

open Text

variable {later : List Char} {lines : Nat}

/-- Characters that are read as a text, nothing of them being left. They may be quoted in any way,
or a bare word. -/
structure SpelledText where
  characters : List Char
  content : String
  unindented : Stops isInlineBlank characters
  notTable : characters.head? ≠ some '\x7b'
  notArray : characters.head? ≠ some '['
  read : ∃ line, readText (Cursor.start characters) = .ok (content, ⟨[], line⟩)

/-- Characters that are read as a key, nothing of them being left. Each of its parts may be quoted
or a bare word. -/
structure SpelledKey where
  characters : List Char
  name : String
  read : ∃ line, readKey (Cursor.start characters) = .ok (name, ⟨[], line⟩)

/-- What may follow a text: blanks, and then the end or a mark that ends a bare word. -/
def ClosesText (later : List Char) : Prop :=
  Stops (fun char => !endsBareWord char) (later.dropWhile isInlineBlank)

/-! ## Passing over blanks -/

namespace Cursor

variable {cursor : Cursor}

theorem skipInline_skipInline : cursor.skipInline.skipInline = cursor.skipInline := by
  have stops := stops_dropWhile isInlineBlank cursor.rest
  have passed := @dropWhile_of_stops isInlineBlank [] _ (by simp) stops
  simp only [skipInline, List.nil_append] at passed ⊢
  rw [passed]

/-- Blanks are filler. -/
theorem skipFiller_skipInline : cursor.skipInline.skipFiller = cursor.skipFiller := by
  obtain ⟨text, line⟩ := cursor
  simp only [skipInline, skipFiller]
  induction text with
  | nil => rfl
  | cons char text induction =>
      rw [List.dropWhile_cons]
      split
      · next blank =>
          have notFeed : char ≠ '\n' := by
            rintro rfl
            exact absurd blank (by decide)
          rw [induction, skipFillerFrom, if_neg notFeed, if_pos (by simp [blank])]
      · rfl

/-- Blanks before something else are passed over in a longer text too. -/
theorem skipInline_embed_of_ne_nil (goesOn : cursor.skipInline.rest ≠ []) :
    (cursor.embed later lines).skipInline = cursor.skipInline.embed later lines := by
  obtain ⟨text, line⟩ := cursor
  simp only [skipInline, embed] at goesOn ⊢
  rw [List.dropWhile_append, if_neg (by simpa using goesOn)]

/-- After blanks only, those of the longer text are passed over. -/
theorem skipInline_embed_of_eq_nil (ended : cursor.skipInline.rest = []) :
    (cursor.embed later lines).skipInline = (cursor.skipInline.embed later lines).skipInline := by
  obtain ⟨text, line⟩ := cursor
  simp only [skipInline, embed] at ended ⊢
  rw [List.dropWhile_append, ended]
  rfl

end Cursor

/-! ## What follows -/

theorem unended_of_isInlineBlank {char : Char} (blank : isInlineBlank char = true) :
    (!endsBareWord char) = true := by
  simp only [isInlineBlank, Bool.or_eq_true, beq_iff_eq] at blank
  rcases blank with rfl | rfl
  · rfl
  · rfl

theorem closesText_cons {char : Char} {rest : List Char} (ends : endsBareWord char = true) :
    ClosesText (char :: rest) := by
  have unblank : isInlineBlank char = false := by
    rw [Bool.eq_false_iff]
    intro blank
    have ordinary := unended_of_isInlineBlank blank
    simp [ends] at ordinary
  rw [ClosesText, List.dropWhile_cons_of_neg (by simp [unblank])]
  exact stops_cons (by simp [ends])

/-- Filler does not keep a mark from ending a text: it is blank, or begins with a mark itself. -/
theorem closesText_fillerText_append (filler : List Filler) (closes : ClosesText later) :
    ClosesText (fillerText filler ++ later) := by
  induction filler with
  | nil => exact closes
  | cons first filler induction =>
      cases first with
      | space => exact induction
      | tab => exact induction
      | carriageReturn => exact closesText_cons rfl
      | lineFeed => exact closesText_cons rfl
      | comment words oneLine => exact closesText_cons rfl

theorem closesText_blanksText_append (blanks : List InlineBlank) (closes : ClosesText later) :
    ClosesText (blanksText blanks ++ later) := by
  induction blanks with
  | nil => exact closes
  | cons first blanks induction => cases first <;> exact induction

theorem ClosesText.head?_ne {char : Char} (closes : ClosesText later)
    (unblank : isInlineBlank char = false) (ordinary : endsBareWord char = false) :
    later.head? ≠ some char := by
  intro first
  obtain ⟨rest, rfl⟩ := List.head?_eq_some_iff.1 first
  rw [ClosesText, List.dropWhile_cons_of_neg (by simp [unblank]), stops_cons_iff] at closes
  simp [ordinary] at closes

/-! ## Texts -/

theorem isBlank_of_isInlineBlank {char : Char} (blank : isInlineBlank char = true) :
    isBlank char = true := by
  simp only [isInlineBlank, Bool.or_eq_true, beq_iff_eq] at blank
  rcases blank with rfl | rfl
  · decide
  · decide

/-- Later text with its blanks apart. -/
theorem append_blanks (text later : List Char) :
    text ++ later =
      (text ++ later.takeWhile isInlineBlank) ++ later.dropWhile isInlineBlank := by
  rw [List.append_assoc, List.takeWhile_append_dropWhile]

/-- The span of a bare word takes the blanks after it, and no more. -/
theorem takeWhile_append_of_closesText {text : List Char} (closes : ClosesText later)
    (bare : ∀ char ∈ text, (!endsBareWord char) = true) :
    (text ++ later).takeWhile (fun char => !endsBareWord char) =
      text ++ later.takeWhile isInlineBlank := by
  rw [append_blanks]
  refine takeWhile_of_stops ?_ closes
  intro char member
  rcases List.mem_append.1 member with inside | behind
  · exact bare char inside
  · exact unended_of_isInlineBlank (forall_mem_takeWhile behind)

/-- A bare word is read with the blanks after it. -/
theorem readBareWord_append {cursor : Cursor} {word : List Char} {line : Nat}
    (closes : ClosesText later) (read : readBareWord cursor = .ok (word, ⟨[], line⟩)) :
    readBareWord (cursor.embed later lines) =
      .ok (word, (⟨later, line + lines⟩ : Cursor).skipInline) := by
  obtain ⟨stripped, written, plain, ended⟩ := readBareWord_eq_ok_iff.1 read
  have passes : cursor.Passes ⟨[], line⟩ := by
    rw [ended]
    exact Cursor.passes_advance cursor _
  have nothing : cursor.rest.dropWhile (fun char => !endsBareWord char) = [] := by
    rw [← drop_length_takeWhile]
    exact (congrArg Cursor.rest ended).symm
  have whole : cursor.rest.takeWhile (fun char => !endsBareWord char) = cursor.rest := by
    rw [← List.append_nil (cursor.rest.takeWhile _), ← nothing, List.takeWhile_append_dropWhile]
  have bare : ∀ char ∈ cursor.rest, (!endsBareWord char) = true := by
    rw [← whole]
    exact fun _ => forall_mem_takeWhile
  rw [readBareWord_eq_ok_iff, Cursor.embed_rest, takeWhile_append_of_closesText closes bare,
    strip_append_blanks fun _ member => isBlank_of_isInlineBlank (forall_mem_takeWhile member)]
  refine ⟨by rw [← whole, stripped], written, plain, ?_⟩
  have oneLine : (later.takeWhile isInlineBlank).count '\n' = 0 :=
    List.count_eq_zero.2 (Cursor.notMem_takeWhile rfl later)
  have counted : line = cursor.line + cursor.rest.count '\n' := passes.line_eq rfl
  have parts := append_blanks cursor.rest later
  simp only [Cursor.advance, Cursor.embed, Cursor.skipInline, parts, List.drop_left,
    List.take_left, List.count_append, oneLine, Cursor.mk.injEq, true_and]
  omega

namespace SpelledText

variable (text : SpelledText)

theorem characters_ne_nil : text.characters ≠ [] := by
  obtain ⟨line, read⟩ := text.read
  exact (readText_passesSome read).ne_nil

theorem stops_append : Stops isInlineBlank (text.characters ++ later) := by
  obtain ⟨char, rest, opened⟩ := List.exists_cons_of_ne_nil text.characters_ne_nil
  have unindented := text.unindented
  rw [opened, stops_cons_iff] at unindented
  rw [opened, List.cons_append, stops_cons_iff]
  exact unindented

/-- A text is read however it is spelled, up to blanks after it. -/
theorem readText_append {line : Nat} (begun : 0 < line) (closes : ClosesText later) :
    ∃ after, readText ⟨text.characters ++ later, line⟩ = .ok (text.content, after) ∧
      after.skipInline = (⟨later, line + text.characters.count '\n'⟩ : Cursor).skipInline := by
  obtain ⟨last, read⟩ := text.read
  obtain ⟨lines, counted⟩ : ∃ lines, line = 1 + lines := ⟨line - 1, by omega⟩
  have position : (⟨text.characters ++ later, line⟩ : Cursor) =
      (Cursor.start text.characters).embed later lines := by rw [counted]; rfl
  have ended : last + lines = line + text.characters.count '\n' := by
    have passed : last = 1 + text.characters.count '\n' := (readText_passesSome read).1.line_eq rfl
    omega
  rw [position, ← ended]
  rcases readText_embed_cases (closes.head?_ne rfl rfl) (closes.head?_ne rfl rfl) read with
    quoted | ⟨word, bare, same, longer⟩
  · exact ⟨_, quoted, rfl⟩
  · rw [readBareWord_append closes bare] at longer
    refine ⟨_, ?_, Cursor.skipInline_skipInline⟩
    rw [longer, ← same]
    rfl

/-- As a value, a text is read at every depth. -/
theorem readValueWithin_append [CallStack] {line : Nat} (depth : Nat) (begun : 0 < line)
    (closes : ClosesText later) :
    ∃ after, readValueWithin depth ⟨text.characters ++ later, line⟩ =
        .ok (.text text.content, after) ∧
      after.skipInline = (⟨later, line + text.characters.count '\n'⟩ : Cursor).skipInline := by
  obtain ⟨after, read, position⟩ := text.readText_append begun closes
  have opened : ∀ char, (text.characters ++ later).head? = some char →
      text.characters.head? = some char := by
    obtain ⟨first, rest, whole⟩ := List.exists_cons_of_ne_nil text.characters_ne_nil
    simp [whole]
  refine ⟨after, ?_, position⟩
  rw [readValueWithin_flat fun table => text.notTable (opened _ table), readFlat_eq,
    if_neg fun array => text.notArray (opened _ array), read]
  rfl

/-- Every text can be spelled between double quotes. -/
def ofContent (content : String) : SpelledText where
  characters := quoted content
  content := content
  unindented := stops_cons rfl
  notTable := nofun
  notArray := nofun
  read := by
    have read := @readText_quoted [] 1 content nofun
    rw [List.append_nil] at read
    exact ⟨1, read⟩

end SpelledText

/-! ## Keys -/

/-- The further parts of a key are read up to its end, and the blanks after it are passed over. -/
theorem reads_readDottedPart_append {cursor after : Cursor} {others : List (List Char)}
    (stops : Stops isKeyChar later)
    (undotted : (later.dropWhile isInlineBlank).head? ≠ some '.')
    (reads : Reads readDottedPart cursor others after) (ended : after.rest = []) :
    Reads readDottedPart (cursor.embed later lines) others
      (after.embed later lines).skipInline := by
  induction reads with
  | stop read =>
      rcases readDottedPart_cases read with ⟨_, _, _, item, _⟩ | ⟨_, _, rfl⟩
      · cases item
      · refine .stop ?_
        rw [← Cursor.skipInline_embed_of_eq_nil ended]
        apply readDottedPart_stop
        rw [Cursor.skipInline_embed_of_eq_nil ended]
        simp only [Cursor.skipInline] at ended
        simpa [Cursor.skipInline, ended] using undotted
  | last read =>
      rcases readDottedPart_cases read with ⟨_, _, _, item, _⟩ | ⟨_, item, _⟩
      · cases item
      · cases item
  | @more cursor middle after item items read _ induction =>
      rcases readDottedPart_cases read with ⟨rest, part, dotted, item, found⟩ | ⟨_, item, _⟩
      · cases item
        refine .more ?_ (induction ended)
        have goesOn := (readKeyPart_passesSome found).ne_nil
        have dot : cursor.skipInline.rest ≠ [] := by simp [dotted]
        rw [readDottedPart_dot (by simp [Cursor.skipInline_embed_of_ne_nil dot, dotted]),
          Cursor.skipInline_embed_of_ne_nil dot,
          Cursor.advance_one_embed (by simp [dotted]), Cursor.skipInline_embed_of_ne_nil goesOn,
          readKeyPart_embed stops found]
        rfl
      · cases item

namespace SpelledKey

variable (key : SpelledKey)

/-- A key is read however it is spelled, with the blanks after it. -/
theorem readKey_append {line : Nat} (begun : 0 < line) (stops : Stops isKeyChar later)
    (undotted : (later.dropWhile isInlineBlank).head? ≠ some '.') :
    readKey ⟨key.characters ++ later, line⟩ =
      .ok (key.name, (⟨later, line + key.characters.count '\n'⟩ : Cursor).skipInline) := by
  obtain ⟨last, read⟩ := key.read
  obtain ⟨lines, counted⟩ : ∃ lines, line = 1 + lines := ⟨line - 1, by omega⟩
  have position : (⟨key.characters ++ later, line⟩ : Cursor) =
      (Cursor.start key.characters).embed later lines := by rw [counted]; rfl
  have ended : last + lines = line + key.characters.count '\n' := by
    have passed : last = 1 + key.characters.count '\n' := (readKey_passesSome read).1.line_eq rfl
    omega
  obtain ⟨first, others, middle, opened, reads, joined⟩ := readKey_eq_ok_iff.1 read
  rw [position, ← ended, readKey_eq_ok_iff]
  exact ⟨first, others, _, readKeyPart_embed stops opened,
    reads_readDottedPart_append stops undotted reads rfl, joined⟩

/-- Every name can be spelled between double quotes, the dots in it included. -/
def ofName (name : String) : SpelledKey where
  characters := quoted name
  name := name
  read := by
    have read := @readKey_text [] 1 ⟨name, []⟩ [] stops_nil nofun
    simp only [WrittenKey.text, List.flatMap_nil, blanksText, List.map_nil, List.append_nil,
      WrittenKey.parts] at read
    exact ⟨1, read⟩

/-- A key begins with a quote or with a character of a word. -/
theorem exists_cons : ∃ char rest, key.characters = char :: rest ∧
    (char = '"' ∨ char = '\'' ∨ isKeyChar char = true) := by
  obtain ⟨line, read⟩ := key.read
  obtain ⟨first, others, middle, opened, _, _⟩ := readKey_eq_ok_iff.1 read
  rcases readKeyPart_cases opened with ⟨rest, quoted, _⟩ | ⟨rest, quoted, _⟩ |
    ⟨_, _, written, span, _⟩
  · exact ⟨'"', rest, quoted, .inl rfl⟩
  · exact ⟨'\'', rest, quoted, .inr (.inl rfl)⟩
  · obtain ⟨char, rest, whole⟩ := List.exists_cons_of_ne_nil (readKey_passesSome read).ne_nil
    refine ⟨char, rest, whole, .inr (.inr ?_)⟩
    rw [whole, List.takeWhile_cons] at span
    split at span
    · next keyed => exact keyed
    · exact absurd span written

theorem stops_append {taken : Char → Bool} (double : taken '"' = false)
    (single : taken '\'' = false) (word : ∀ char, isKeyChar char = true → taken char = false) :
    Stops taken (key.characters ++ later) := by
  obtain ⟨char, rest, whole, opens⟩ := key.exists_cons
  rw [whole, List.cons_append, stops_cons_iff]
  rcases opens with rfl | rfl | keyed
  · exact double
  · exact single
  · exact word char keyed

end SpelledKey

end VersionCatalog.Document
