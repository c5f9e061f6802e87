import VersionCatalog.Proofs.Document.Embedding

/-!
# Readers in a text that goes on

What is read from a text is read from every longer text too. The run of a repetition carries over
step by step. Two of its steps look beyond what they take, so that they carry over only where text
is left: a cut-off escape, and a comma at the very end of a table. Both leave nothing to read for
the next step, which has to succeed as well.
-/

namespace VersionCatalog.Document

open Text

variable {later : List Char} {lines : Nat}

/-- A run carries over to a longer text when its steps do, those that have a next step included. -/
theorem Reads.embed {α : Type} {left right : Reader (Next α)} {bound : Nat}
    (progressive : Progressive left)
    (carries : ∀ {cursor after : Cursor} {item : Next α}, cursor.rest.length ≤ bound →
      left cursor = .ok (item, after) →
      (∀ element, item = .more element → ∃ items last, Reads left after items last) →
      right (cursor.embed later lines) = .ok (item, after.embed later lines))
    {cursor after : Cursor} {items : List α} (within : cursor.rest.length ≤ bound)
    (reads : Reads left cursor items after) :
    Reads right (cursor.embed later lines) items (after.embed later lines) := by
  induction reads with
  | stop read => exact .stop (carries within read nofun)
  | last read => exact .last (carries within read nofun)
  | more read others induction =>
      have shorter := progressive.shortens read
      exact .more (carries within read fun _ _ => ⟨_, _, others⟩) (induction (by omega))

/-! ## Quoted texts -/

theorem readEscape_embed {cursor after : Cursor} {chars : List Char}
    (read : readEscape cursor = .ok (chars, after)) (goesOn : after.rest ≠ []) :
    readEscape (cursor.embed later lines) = .ok (chars, after.embed later lines) := by
  simp only [readEscape] at read
  split at read
  · next empty =>
      cases read
      contradiction
  · next marker rest opened =>
      have step := @Cursor.advance_one_embed later lines cursor (by simp [opened])
      simp only [readEscape, Cursor.embed_rest, opened, List.cons_append, step]
      split at read
      · next char simple =>
          cases read
          rfl
      · next special =>
          split at read
          · next unknown =>
              cases read
              rfl
          · next width known =>
              split at read
              · next char valid =>
                  cases read
                  -- Something is left after the code, so that the code is complete.
                  have enough : width < (cursor.advance 1).rest.length := by
                    have left := List.length_pos_iff.2 goesOn
                    simp only [Cursor.advance, List.length_drop] at left ⊢
                    omega
                  have code : ((cursor.advance 1).rest ++ later).take width =
                      (cursor.advance 1).rest.take width :=
                    List.take_append_of_le_length (Nat.le_of_lt enough)
                  simp only [code, valid]
                  rw [Cursor.advance_embed (Nat.le_of_lt enough)]
              · cases read

theorem ne_nil_of_reads_readBasicPart {opening : Nat} {cursor after : Cursor}
    {parts : List (List Char)} (reads : Reads (readBasicPart opening) cursor parts after) :
    cursor.rest ≠ [] := by
  intro empty
  cases reads with
  | stop read => simp [readBasicPart, empty] at read
  | last read => simp [readBasicPart, empty] at read
  | more read => simp [readBasicPart, empty] at read

theorem readBasicPart_embed {opening other : Nat} {cursor after : Cursor}
    {item : Next (List Char)} (read : readBasicPart opening cursor = .ok (item, after))
    (goesOn : ∀ chars, item = .more chars → after.rest ≠ []) :
    readBasicPart other (cursor.embed later lines) = .ok (item, after.embed later lines) := by
  rcases readBasicPart_cases read with ⟨rest, closed, rfl, rfl⟩ |
    ⟨rest, chars, opened, rfl, escaped⟩ | ⟨char, rest, opened, notFeed, notQuote, notEscape,
      rfl, rfl⟩
  · rw [readBasicPart_quote (by simp [closed]), Cursor.advance_one_embed (by simp [closed])]
  · rw [readBasicPart_escape (by simp [opened]), Cursor.advance_one_embed (by simp [opened]),
      readEscape_embed escaped (goesOn chars rfl)]
    rfl
  · rw [readBasicPart_plain (by simp [opened]) notFeed notQuote notEscape,
      Cursor.advance_one_embed (by simp [opened])]

theorem readBasic_embed {cursor after : Cursor} {content : List Char}
    (opened : cursor.rest ≠ []) (read : readBasic cursor = .ok (content, after)) :
    readBasic (cursor.embed later lines) = .ok (content, after.embed later lines) := by
  obtain ⟨parts, reads, whole⟩ := readBasic_eq_ok_iff.1 read
  refine readBasic_eq_ok_iff.2 ⟨parts, ?_, whole⟩
  rw [Cursor.advance_one_embed opened]
  refine Reads.embed (progressive_readBasicPart _) ?_ (Nat.le_refl _) reads
  intro cursor after item _ read others
  apply readBasicPart_embed read
  intro chars more
  obtain ⟨items, last, others⟩ := others chars more
  exact ne_nil_of_reads_readBasicPart others

theorem readLiteral_embed {cursor after : Cursor} {content : List Char}
    (opened : cursor.rest ≠ []) (read : readLiteral cursor = .ok (content, after)) :
    readLiteral (cursor.embed later lines) = .ok (content, after.embed later lines) := by
  obtain ⟨rest, oneLine, line⟩ := readLiteral_eq_ok_iff.1 read
  rw [readLiteral_eq_ok_iff, Cursor.advance_one_embed opened]
  refine ⟨?_, oneLine, ?_⟩
  · simp [rest]
  · simp [line]

/-- The first three quotes in a row stay the first when the text goes on. -/
theorem splitAtThree?_append {quote : Char} {text before after : List Char}
    (found : splitAtThree? quote text = some (before, after)) :
    splitAtThree? quote (text ++ later) = some (before, after ++ later) := by
  induction text generalizing before with
  | nil => simp [splitAtThree?] at found
  | cons char text induction =>
      simp only [splitAtThree?] at found
      split at found
      · next opens =>
          obtain ⟨rest, whole⟩ := List.isPrefixOf_iff_prefix.1 opens
          cases found
          rw [← whole]
          simp only [List.cons_append, List.nil_append, List.cons.injEq] at whole
          simp [← whole.2, splitAtThree?]
      · next opensNot =>
          obtain ⟨⟨front, back⟩, deeper, same⟩ := Option.map_eq_some_iff.1 found
          cases same
          have long := congrArg List.length (append_of_splitAtThree? deeper)
          simp only [List.length_append, List.length_cons, List.length_nil] at long
          have stillNot : ¬[quote, quote, quote].isPrefixOf (char :: (text ++ later)) = true := by
            rw [List.isPrefixOf_iff_prefix, ← List.cons_append]
            intro opens
            apply opensNot
            rw [List.isPrefixOf_iff_prefix]
            refine List.prefix_of_prefix_length_le opens (List.prefix_append _ later) ?_
            simp only [List.length_cons, List.length_nil]
            omega
          rw [List.cons_append, splitAtThree?, if_neg stillNot, induction deeper]
          rfl

theorem readLong_embed {quote : Char} {cursor after : Cursor} {content : List Char}
    (opened : 3 ≤ cursor.rest.length) (read : readLong quote cursor = .ok (content, after)) :
    readLong quote (cursor.embed later lines) = .ok (content, after.embed later lines) := by
  simp only [readLong, Cursor.advance_embed opened, Cursor.embed_rest] at read ⊢
  split at read
  · cases read
  · next raw rest found =>
      have whole := congrArg List.length (append_of_splitAtThree? found)
      have enough : raw.length + 3 ≤ (cursor.advance 3).rest.length := by
        simp only [List.length_append, List.length_cons, List.length_nil] at whole
        omega
      simp only [splitAtThree?_append found, Cursor.advance_embed enough]
      split at read
      · next double =>
          rw [if_pos double]
          obtain ⟨unescaped, known, same⟩ := map_eq_ok_iff.1 read
          cases same
          rw [known]
          rfl
      · next single =>
          rw [if_neg single]
          cases read
          rfl

/-! ## Keys -/

/-- The first part of a key ends where no character of a word follows. -/
theorem readKeyPart_embed {cursor after : Cursor} {part : List Char} (stops : Stops isKeyChar later)
    (read : readKeyPart cursor = .ok (part, after)) :
    readKeyPart (cursor.embed later lines) = .ok (part, after.embed later lines) := by
  have goesOn := (readKeyPart_passesSome read).ne_nil
  rcases readKeyPart_cases read with ⟨rest, opened, read⟩ | ⟨rest, opened, read⟩ |
    ⟨notDouble, notSingle, written, span, rfl⟩
  · rw [readKeyPart_double (by simp [opened])]
    exact readBasic_embed (by simp [opened]) read
  · rw [readKeyPart_single (by simp [opened])]
    exact readLiteral_embed (by simp [opened]) read
  · have spanned : (cursor.rest ++ later).takeWhile isKeyChar = part := by
      rw [takeWhile_append_of_stops stops, span]
    have enough : part.length ≤ cursor.rest.length := by
      rw [span]
      exact (List.takeWhile_sublist isKeyChar).length_le
    rw [readKeyPart_word (by rwa [Cursor.head?_embed goesOn])
      (by rwa [Cursor.head?_embed goesOn]) (by simpa [spanned] using written)]
    rw [Cursor.embed_rest, spanned, Cursor.advance_embed enough]

theorem readDottedPart_embed {cursor after : Cursor} {item : Next (List Char)}
    (breaks : BreaksLine later) (read : readDottedPart cursor = .ok (item, after)) :
    readDottedPart (cursor.embed later lines) = .ok (item, after.embed later lines) := by
  rcases readDottedPart_cases read with ⟨rest, part, dotted, rfl, found⟩ | ⟨undotted, rfl, rfl⟩
  · rw [readDottedPart_dot (by simp [Cursor.skipInline_embed breaks, dotted]),
      Cursor.skipInline_embed breaks, Cursor.advance_one_embed (by simp [dotted]),
      Cursor.skipInline_embed breaks, readKeyPart_embed (breaks.stops rfl) found]
    rfl
  · rw [readDottedPart_stop, Cursor.skipInline_embed breaks]
    rw [Cursor.skipInline_embed breaks]
    exact Cursor.head?_embed_ne breaks (by decide) undotted

theorem readKey_embed {cursor after : Cursor} {key : String} (breaks : BreaksLine later)
    (read : readKey cursor = .ok (key, after)) :
    readKey (cursor.embed later lines) = .ok (key, after.embed later lines) := by
  obtain ⟨first, others, middle, opened, reads, joined⟩ := readKey_eq_ok_iff.1 read
  refine readKey_eq_ok_iff.2
    ⟨first, others, _, readKeyPart_embed (breaks.stops rfl) opened, ?_, joined⟩
  refine Reads.embed progressive_readDottedPart ?_ (Nat.le_refl _) reads
  intro cursor after item _ read _
  exact readDottedPart_embed breaks read

/-! ## Texts and arrays -/

theorem readBareWord_embed {cursor after : Cursor} {word : List Char} (breaks : BreaksLine later)
    (read : readBareWord cursor = .ok (word, after)) :
    readBareWord (cursor.embed later lines) = .ok (word, after.embed later lines) := by
  obtain ⟨stripped, written, plain, rfl⟩ := readBareWord_eq_ok_iff.1 read
  have stops : Stops (fun char => !endsBareWord char) later := breaks.stops rfl
  have enough := (List.takeWhile_sublist (p := fun char => !endsBareWord char)
    (l := cursor.rest)).length_le
  rw [readBareWord_eq_ok_iff, Cursor.embed_rest, takeWhile_append_of_stops stops,
    Cursor.advance_embed enough]
  exact ⟨stripped, written, plain, rfl⟩

/-- A quoted text is read to its last quote. Otherwise the text is a bare word, here and in the
longer text. -/
theorem readText_embed_cases {cursor after : Cursor} {content : String}
    (undoubled : later.head? ≠ some '"') (unsingled : later.head? ≠ some '\'')
    (read : readText cursor = .ok (content, after)) :
    readText (cursor.embed later lines) = .ok (content, after.embed later lines) ∨
      ∃ word, readBareWord cursor = .ok (word, after) ∧ String.ofList word = content ∧
        readText (cursor.embed later lines) =
          (readBareWord (cursor.embed later lines)).map
            fun (chars, after) => (String.ofList chars, after) := by
  have goesOn := (readText_passesSome read).ne_nil
  have long : ∀ {quote : Char}, [quote, quote, quote].isPrefixOf cursor.rest = true →
      3 ≤ cursor.rest.length := by
    intro quote opens
    exact (List.isPrefixOf_iff_prefix.1 opens).length_le
  have doubles : ['"', '"', '"'].isPrefixOf (cursor.rest ++ later) =
      ['"', '"', '"'].isPrefixOf cursor.rest := isPrefixOf_append (by simpa using undoubled) _
  have singles : ['\'', '\'', '\''].isPrefixOf (cursor.rest ++ later) =
      ['\'', '\'', '\''].isPrefixOf cursor.rest := isPrefixOf_append (by simpa using unsingled) _
  rw [readText_eq, map_eq_ok_iff] at read
  obtain ⟨⟨chars, stopped⟩, read, same⟩ := read
  cases same
  rw [readText_eq, Cursor.head?_embed goesOn, Cursor.embed_rest, doubles, singles]
  split at read
  · next opens =>
      rw [if_pos opens, readLong_embed (long opens) read]
      exact .inl rfl
  · next notDoubles =>
      rw [if_neg notDoubles]
      split at read
      · next opens =>
          rw [if_pos opens, readLong_embed (long opens) read]
          exact .inl rfl
      · next notSingles =>
          rw [if_neg notSingles]
          split at read
          · next double =>
              rw [if_pos double, readBasic_embed goesOn read]
              exact .inl rfl
          · next notDouble =>
              rw [if_neg notDouble]
              split at read
              · next single =>
                  rw [if_pos single, readLiteral_embed goesOn read]
                  exact .inl rfl
              · next notSingle =>
                  rw [if_neg notSingle]
                  exact .inr ⟨chars, read, rfl, rfl⟩

theorem readText_embed {cursor after : Cursor} {content : String} (breaks : BreaksLine later)
    (read : readText cursor = .ok (content, after)) :
    readText (cursor.embed later lines) = .ok (content, after.embed later lines) := by
  rcases readText_embed_cases (breaks.head?_ne (by decide)) (breaks.head?_ne (by decide)) read with
    quoted | ⟨word, bare, rfl, same⟩
  · exact quoted
  · rw [same, readBareWord_embed breaks bare]
    rfl

theorem readItem_embed {opening other : Nat} {cursor after : Cursor} {item : Next String}
    (breaks : BreaksLine later) (read : readItem opening cursor = .ok (item, after)) :
    readItem other (cursor.embed later lines) = .ok (item, after.embed later lines) := by
  rcases readItem_cases read with ⟨rest, closed, rfl, rfl⟩ |
    ⟨char, rest, content, middle, opened, notClosed, notTable, notArray, found, ended, rfl⟩
  · have filler := @Cursor.skipFiller_embed_of_ne_nil later lines cursor breaks (by simp [closed])
    rw [readItem_close (by simp [filler, closed]), filler,
      Cursor.advance_one_embed (by simp [closed])]
  · have filler := @Cursor.skipFiller_embed_of_ne_nil later lines cursor breaks (by simp [opened])
    have embedded : readText (cursor.embed later lines).skipFiller =
        .ok (content, middle.embed later lines) := by
      rw [filler]
      exact readText_embed breaks found
    have continued := @readItem_text other _ _ char content
      (by simp [filler, opened]) notClosed notTable notArray embedded
    rcases ended with ⟨rest, separated, rfl⟩ | ⟨rest, closed, rfl⟩
    · have behind := @Cursor.skipFiller_embed_of_ne_nil later lines middle breaks
        (by simp [separated])
      rw [continued.1 (by simp [behind, separated]), behind,
        Cursor.advance_one_embed (by simp [separated])]
    · have behind := @Cursor.skipFiller_embed_of_ne_nil later lines middle breaks
        (by simp [closed])
      rw [continued.2 (by simp [behind, closed]), behind,
        Cursor.advance_one_embed (by simp [closed])]

theorem readArray_embed {cursor after : Cursor} {items : List String} (breaks : BreaksLine later)
    (opened : cursor.rest ≠ []) (read : readArray cursor = .ok (items, after)) :
    readArray (cursor.embed later lines) = .ok (items, after.embed later lines) := by
  rw [readArray_eq_ok_iff] at read ⊢
  rw [Cursor.advance_one_embed opened]
  refine Reads.embed (progressive_readItem _) ?_ (Nat.le_refl _) read
  intro cursor after item _ read _
  exact readItem_embed breaks read

end VersionCatalog.Document
