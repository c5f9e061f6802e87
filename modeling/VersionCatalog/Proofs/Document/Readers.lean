import VersionCatalog.Proofs.Document.Passage
import VersionCatalog.Proofs.Text.Blank
import VersionCatalog.Proofs.Text.Pattern

/-!
# What the readers take

For every reader of a document, one lemma says in which ways it can succeed, and one that it moves
forward, or takes a character at least.
-/

namespace VersionCatalog.Document

open Text

/-! ## Quoted texts -/

theorem readEscape_passes {cursor after : Cursor} {chars : List Char}
    (read : readEscape cursor = .ok (chars, after)) : cursor.Passes after := by
  simp only [readEscape] at read
  split at read
  · cases read
    exact .refl _
  · next marker rest opened =>
      split at read
      · cases read
        exact Cursor.passes_advance cursor 1
      · split at read
        · cases read
          exact Cursor.passes_advance cursor 1
        · next width _ =>
            split at read
            · cases read
              exact (Cursor.passes_advance cursor 1).trans (Cursor.passes_advance _ width)
            · cases read

/-- What may come next between double quotes. -/
theorem readBasicPart_cases {opening : Nat} {cursor after : Cursor} {item : Next (List Char)}
    (read : readBasicPart opening cursor = .ok (item, after)) :
    (∃ rest, cursor.rest = '"' :: rest ∧ item = .stop ∧ after = cursor.advance 1) ∨
      (∃ rest chars, cursor.rest = '\\' :: rest ∧ item = .more chars ∧
        readEscape (cursor.advance 1) = .ok (chars, after)) ∨
      ∃ char rest, cursor.rest = char :: rest ∧ char ≠ '\n' ∧ char ≠ '"' ∧ char ≠ '\\' ∧
        item = .more [char] ∧ after = cursor.advance 1 := by
  simp only [readBasicPart] at read
  split at read
  · cases read
  · cases read
  · next rest opened =>
      cases read
      exact .inl ⟨rest, opened, rfl, rfl⟩
  · next rest opened =>
      obtain ⟨⟨chars, stopped⟩, escaped, same⟩ := map_eq_ok_iff.1 read
      cases same
      exact .inr (.inl ⟨rest, chars, opened, rfl, escaped⟩)
  · next char rest notFeed notQuote notEscape opened =>
      cases read
      exact .inr (.inr ⟨char, rest, opened, notFeed, notQuote, notEscape, rfl, rfl⟩)

theorem readBasicPart_quote {opening : Nat} {cursor : Cursor}
    (closed : cursor.rest.head? = some '"') :
    readBasicPart opening cursor = .ok (.stop, cursor.advance 1) := by
  obtain ⟨rest, closed⟩ := List.head?_eq_some_iff.1 closed
  simp only [readBasicPart, closed]

theorem readBasicPart_escape {opening : Nat} {cursor : Cursor}
    (opened : cursor.rest.head? = some '\\') :
    readBasicPart opening cursor =
      (readEscape (cursor.advance 1)).map fun (chars, after) => (.more chars, after) := by
  obtain ⟨rest, opened⟩ := List.head?_eq_some_iff.1 opened
  simp only [readBasicPart, opened]

theorem readBasicPart_plain {opening : Nat} {cursor : Cursor} {char : Char}
    (opened : cursor.rest.head? = some char) (notFeed : char ≠ '\n') (notQuote : char ≠ '"')
    (notEscape : char ≠ '\\') :
    readBasicPart opening cursor = .ok (.more [char], cursor.advance 1) := by
  obtain ⟨rest, opened⟩ := List.head?_eq_some_iff.1 opened
  simp [readBasicPart, opened]

theorem progressive_readBasicPart (opening : Nat) : Progressive (readBasicPart opening) := by
  apply Progressive.of_passesSome
  intro cursor after item read
  rcases readBasicPart_cases read with ⟨rest, opened, _, rfl⟩ |
    ⟨rest, chars, opened, _, escaped⟩ | ⟨char, rest, opened, _, _, _, _, rfl⟩
  · exact Cursor.passesSome_advance (by simp [opened]) Nat.one_pos
  · exact (Cursor.passesSome_advance (by simp [opened]) Nat.one_pos).trans
      (readEscape_passes escaped)
  · exact Cursor.passesSome_advance (by simp [opened]) Nat.one_pos

theorem readBasic_eq_ok_iff {cursor after : Cursor} {content : List Char} :
    readBasic cursor = .ok (content, after) ↔
      ∃ parts, Reads (readBasicPart cursor.line) (cursor.advance 1) parts after ∧
        parts.flatten = content := by
  simp only [readBasic, map_eq_ok_iff, Prod.exists, Prod.mk.injEq,
    many_result_iff (progressive_readBasicPart _)]
  constructor
  · rintro ⟨parts, stopped, reads, rfl, rfl⟩
    exact ⟨parts, reads, rfl⟩
  · rintro ⟨parts, reads, rfl⟩
    exact ⟨parts, after, reads, rfl, rfl⟩

theorem readBasic_passes {cursor after : Cursor} {content : List Char}
    (read : readBasic cursor = .ok (content, after)) : (cursor.advance 1).Passes after := by
  obtain ⟨parts, reads, _⟩ := readBasic_eq_ok_iff.1 read
  exact reads.passes (progressive_readBasicPart _)

/-- A character between single quotes. -/
def isLiteralChar (char : Char) : Bool :=
  char != '\'' && char != '\n'

/-- A text between single quotes ends at the next quote, on the same line. -/
theorem readLiteral_eq_ok_iff {cursor after : Cursor} {content : List Char} :
    readLiteral cursor = .ok (content, after) ↔
      (cursor.advance 1).rest = content ++ '\'' :: after.rest ∧
        (∀ char ∈ content, isLiteralChar char = true) ∧
        after.line = (cursor.advance 1).line := by
  have spanned : ∀ text : List Char,
      text.takeWhile (fun char => char != '\'' && char != '\n') =
        text.takeWhile isLiteralChar := fun _ => rfl
  simp only [readLiteral, spanned, drop_length_takeWhile]
  constructor
  · intro read
    split at read
    · next rest closed =>
        cases read
        refine ⟨?_, fun _ => forall_mem_takeWhile, rfl⟩
        rw [← closed, List.takeWhile_append_dropWhile]
    · cases read
  · rintro ⟨rest, oneLine, line⟩
    have closes : Stops isLiteralChar ('\'' :: after.rest) := stops_cons rfl
    rw [rest, takeWhile_of_stops oneLine closes, dropWhile_of_stops oneLine closes]
    simp only [← line]

theorem readLiteral_passes {cursor after : Cursor} {content : List Char}
    (read : readLiteral cursor = .ok (content, after)) : (cursor.advance 1).Passes after := by
  obtain ⟨rest, oneLine, line⟩ := readLiteral_eq_ok_iff.1 read
  refine Cursor.passes_of_append (content ++ ['\'']) (by simp [rest]) line ?_
  intro member
  rcases List.mem_append.1 member with inside | closing
  · exact absurd (oneLine _ inside) (by decide)
  · simp at closing

/-- What may come next in a text in which only escapes are special. -/
theorem readEscapedPart_cases {cursor after : Cursor} {item : Next (List Char)}
    (read : readEscapedPart cursor = .ok (item, after)) :
    (cursor.rest = [] ∧ item = .stop ∧ after = cursor) ∨
      (∃ rest chars, cursor.rest = '\\' :: rest ∧ item = .more chars ∧
        readEscape (cursor.advance 1) = .ok (chars, after)) ∨
      ∃ char rest, cursor.rest = char :: rest ∧ char ≠ '\\' ∧ item = .more [char] ∧
        after = cursor.advance 1 := by
  simp only [readEscapedPart] at read
  split at read
  · next ended =>
      cases read
      exact .inl ⟨ended, rfl, rfl⟩
  · next rest opened =>
      obtain ⟨⟨chars, stopped⟩, escaped, same⟩ := map_eq_ok_iff.1 read
      cases same
      exact .inr (.inl ⟨rest, chars, opened, rfl, escaped⟩)
  · next char rest notEscape opened =>
      cases read
      exact .inr (.inr ⟨char, rest, opened, notEscape, rfl, rfl⟩)

theorem readEscapedPart_escape {cursor : Cursor} (opened : cursor.rest.head? = some '\\') :
    readEscapedPart cursor =
      (readEscape (cursor.advance 1)).map fun (chars, after) => (.more chars, after) := by
  obtain ⟨rest, opened⟩ := List.head?_eq_some_iff.1 opened
  simp only [readEscapedPart, opened]

theorem readEscapedPart_plain {cursor : Cursor} {char : Char}
    (opened : cursor.rest.head? = some char) (notEscape : char ≠ '\\') :
    readEscapedPart cursor = .ok (.more [char], cursor.advance 1) := by
  obtain ⟨rest, opened⟩ := List.head?_eq_some_iff.1 opened
  simp [readEscapedPart, opened]

theorem progressive_readEscapedPart : Progressive readEscapedPart := by
  have taken : ∀ {cursor after : Cursor} {chars : List Char},
      readEscapedPart cursor = .ok (.more chars, after) → cursor.PassesSome after := by
    intro cursor after chars read
    rcases readEscapedPart_cases read with ⟨_, item, _⟩ | ⟨rest, _, opened, _, escaped⟩ |
      ⟨char, rest, opened, _, _, rfl⟩
    · cases item
    · exact (Cursor.passesSome_advance (by simp [opened]) Nat.one_pos).trans
        (readEscape_passes escaped)
    · exact Cursor.passesSome_advance (by simp [opened]) Nat.one_pos
  constructor
  · intro cursor after item read
    rcases readEscapedPart_cases read with ⟨_, _, rfl⟩ | ⟨_, _, _, rfl, _⟩ | ⟨_, _, _, _, rfl, _⟩
    · exact .refl _
    · exact (taken read).1
    · exact (taken read).1
  · intro cursor after chars read
    exact (taken read).2

theorem unescape_eq_ok_iff {text content : List Char} :
    unescape text = .ok content ↔
      ∃ parts after, Reads readEscapedPart (Cursor.start text) parts after ∧
        parts.flatten = content := by
  simp only [unescape, map_eq_ok_iff, Prod.exists, many_result_iff progressive_readEscapedPart]

/-- Only the code of an escape can be wrong. -/
theorem cause_of_readEscape {cursor : Cursor} {fault : Fault}
    (failed : readEscape cursor = .error fault) :
    ∃ marker code, fault.cause = .invalidEscape marker code := by
  simp only [readEscape] at failed
  split at failed
  · cases failed
  · split at failed
    · cases failed
    · split at failed
      · cases failed
      · split at failed
        · cases failed
        · cases failed
          exact ⟨_, _, rfl⟩

theorem cause_of_unescape {text : List Char} {fault : Fault}
    (failed : unescape text = .error fault) :
    ∃ marker code, fault.cause = .invalidEscape marker code := by
  obtain ⟨reached, _, met⟩ := exists_of_many_error progressive_readEscapedPart
    (map_eq_error_iff.1 failed)
  simp only [readEscapedPart] at met
  split at met
  · cases met
  · exact cause_of_readEscape (map_eq_error_iff.1 met)
  · cases met

/-- Three quotes in a row are the first when none end earlier. -/
theorem append_of_splitAtThree? {quote : Char} {text before after : List Char}
    (found : splitAtThree? quote text = some (before, after)) :
    text = before ++ [quote, quote, quote] ++ after := by
  induction text generalizing before with
  | nil => simp [splitAtThree?] at found
  | cons char text induction =>
      simp only [splitAtThree?] at found
      split at found
      · next opens =>
          obtain ⟨left, whole⟩ := List.isPrefixOf_iff_prefix.1 opens
          cases found
          rw [← whole]
          simp only [List.cons_append, List.nil_append, List.cons.injEq] at whole
          simp [← whole.2]
      · obtain ⟨⟨front, back⟩, later, same⟩ := Option.map_eq_some_iff.1 found
        cases same
        rw [induction later]
        rfl

theorem readLong_double {cursor : Cursor} {content later : List Char}
    (found : splitAtThree? '"' (cursor.advance 3).rest = some (content, later)) :
    readLong '"' cursor =
      (unescape content).map fun unescaped =>
        (strip unescaped, (cursor.advance 3).advance (content.length + 3)) := by
  simp only [readLong, found, if_true]

theorem readLong_passes {quote : Char} {cursor after : Cursor} {content : List Char}
    (read : readLong quote cursor = .ok (content, after)) : (cursor.advance 3).Passes after := by
  simp only [readLong] at read
  split at read
  · cases read
  · next raw _ found =>
      split at read
      · obtain ⟨unescaped, _, same⟩ := map_eq_ok_iff.1 read
        cases same
        exact Cursor.passes_advance _ _
      · cases read
        exact Cursor.passes_advance _ _

/-! ## Keys -/

/-- What may come next in a key: a quoted part or a word. -/
theorem readKeyPart_cases {cursor after : Cursor} {part : List Char}
    (read : readKeyPart cursor = .ok (part, after)) :
    (∃ rest, cursor.rest = '"' :: rest ∧ readBasic cursor = .ok (part, after)) ∨
      (∃ rest, cursor.rest = '\'' :: rest ∧ readLiteral cursor = .ok (part, after)) ∨
      (cursor.rest.head? ≠ some '"' ∧ cursor.rest.head? ≠ some '\'' ∧ part ≠ [] ∧
        part = cursor.rest.takeWhile isKeyChar ∧ after = cursor.advance part.length) := by
  simp only [readKeyPart] at read
  split at read
  · next rest opened => exact .inl ⟨rest, opened, read⟩
  · next rest opened => exact .inr (.inl ⟨rest, opened, read⟩)
  · next notDouble notSingle =>
      split at read
      · cases read
      · next written =>
          cases read
          refine .inr (.inr ⟨?_, ?_, by simpa using written, rfl, rfl⟩)
          · intro first
            obtain ⟨rest, opened⟩ := List.head?_eq_some_iff.1 first
            exact notDouble rest opened
          · intro first
            obtain ⟨rest, opened⟩ := List.head?_eq_some_iff.1 first
            exact notSingle rest opened

theorem readKeyPart_double {cursor : Cursor} (opened : cursor.rest.head? = some '"') :
    readKeyPart cursor = readBasic cursor := by
  obtain ⟨rest, opened⟩ := List.head?_eq_some_iff.1 opened
  simp only [readKeyPart, opened]

theorem readKeyPart_single {cursor : Cursor} (opened : cursor.rest.head? = some '\'') :
    readKeyPart cursor = readLiteral cursor := by
  obtain ⟨rest, opened⟩ := List.head?_eq_some_iff.1 opened
  simp only [readKeyPart, opened]

theorem readKeyPart_word {cursor : Cursor} (notDouble : cursor.rest.head? ≠ some '"')
    (notSingle : cursor.rest.head? ≠ some '\'')
    (written : cursor.rest.takeWhile isKeyChar ≠ []) :
    readKeyPart cursor = .ok (cursor.rest.takeWhile isKeyChar,
      cursor.advance (cursor.rest.takeWhile isKeyChar).length) := by
  simp only [readKeyPart]
  split
  · next rest opened => simp [opened] at notDouble
  · next rest opened => simp [opened] at notSingle
  · rw [if_neg (by simpa using written)]

theorem readKeyPart_passesSome {cursor after : Cursor} {part : List Char}
    (read : readKeyPart cursor = .ok (part, after)) : cursor.PassesSome after := by
  rcases readKeyPart_cases read with ⟨rest, opened, read⟩ | ⟨rest, opened, read⟩ |
    ⟨_, _, written, span, rfl⟩
  · exact (Cursor.passesSome_advance (by simp [opened]) Nat.one_pos).trans (readBasic_passes read)
  · exact (Cursor.passesSome_advance (by simp [opened]) Nat.one_pos).trans
      (readLiteral_passes read)
  · refine Cursor.passesSome_advance ?_ (List.length_pos_iff.2 written)
    rintro empty
    simp [span, empty] at written

/-- What may follow a part of a key: a dot and a further part, or something else. -/
theorem readDottedPart_cases {cursor after : Cursor} {item : Next (List Char)}
    (read : readDottedPart cursor = .ok (item, after)) :
    (∃ rest part, cursor.skipInline.rest = '.' :: rest ∧ item = .more part ∧
        readKeyPart (cursor.skipInline.advance 1).skipInline = .ok (part, after)) ∨
      (cursor.skipInline.rest.head? ≠ some '.' ∧ item = .stop ∧ after = cursor.skipInline) := by
  simp only [readDottedPart] at read
  split at read
  · next rest dotted =>
      obtain ⟨⟨part, stopped⟩, found, same⟩ := map_eq_ok_iff.1 read
      cases same
      exact .inl ⟨rest, part, dotted, rfl, found⟩
  · next undotted =>
      cases read
      refine .inr ⟨?_, rfl, rfl⟩
      intro first
      obtain ⟨rest, dotted⟩ := List.head?_eq_some_iff.1 first
      exact undotted rest dotted

theorem readDottedPart_dot {cursor : Cursor} (dotted : cursor.skipInline.rest.head? = some '.') :
    readDottedPart cursor =
      (readKeyPart (cursor.skipInline.advance 1).skipInline).map
        fun (part, after) => (.more part, after) := by
  obtain ⟨rest, dotted⟩ := List.head?_eq_some_iff.1 dotted
  simp only [readDottedPart, dotted]

theorem readDottedPart_stop {cursor : Cursor}
    (undotted : cursor.skipInline.rest.head? ≠ some '.') :
    readDottedPart cursor = .ok (.stop, cursor.skipInline) := by
  simp only [readDottedPart]
  split
  · next rest dotted => simp [dotted] at undotted
  · rfl

theorem progressive_readDottedPart : Progressive readDottedPart := by
  have taken : ∀ {cursor after : Cursor} {part : List Char} {rest : List Char},
      cursor.skipInline.rest = '.' :: rest →
      readKeyPart (cursor.skipInline.advance 1).skipInline = .ok (part, after) →
      cursor.PassesSome after := by
    intro cursor after part rest dotted read
    refine (Cursor.passes_skipInline cursor).trans_some ?_
    refine (Cursor.passesSome_advance (by simp [dotted]) Nat.one_pos).trans ?_
    exact (Cursor.passes_skipInline _).trans (readKeyPart_passesSome read).1
  constructor
  · intro cursor after item read
    rcases readDottedPart_cases read with ⟨rest, part, dotted, _, read⟩ | ⟨_, _, rfl⟩
    · exact (taken dotted read).1
    · exact Cursor.passes_skipInline cursor
  · intro cursor after item read
    rcases readDottedPart_cases read with ⟨rest, part, dotted, _, read⟩ | ⟨_, stopped, _⟩
    · exact (taken dotted read).2
    · cases stopped

theorem readKey_eq_ok_iff {cursor after : Cursor} {key : String} :
    readKey cursor = .ok (key, after) ↔
      ∃ first others middle, readKeyPart cursor = .ok (first, middle) ∧
        Reads readDottedPart middle others after ∧
        String.ofList (['.'].intercalate (first :: others)) = key := by
  simp only [readKey]
  constructor
  · intro read
    split at read
    · cases read
    · next first middle opened =>
        obtain ⟨⟨others, stopped⟩, found, same⟩ := map_eq_ok_iff.1 read
        cases same
        exact ⟨first, others, middle, opened,
          (many_result_iff progressive_readDottedPart).1 found, rfl⟩
  · rintro ⟨first, others, middle, opened, reads, rfl⟩
    simp only [opened, (many_result_iff progressive_readDottedPart).2 reads]
    rfl

theorem readKey_passesSome {cursor after : Cursor} {key : String}
    (read : readKey cursor = .ok (key, after)) : cursor.PassesSome after := by
  obtain ⟨first, others, middle, opened, reads, _⟩ := readKey_eq_ok_iff.1 read
  exact (readKeyPart_passesSome opened).trans (reads.passes progressive_readDottedPart)

/-! ## Texts and arrays -/

theorem readBareWord_eq_ok_iff {cursor after : Cursor} {word : List Char} :
    readBareWord cursor = .ok (word, after) ↔
      strip (cursor.rest.takeWhile fun char => !endsBareWord char) = word ∧ word ≠ [] ∧
        word.all isBareWordChar = true ∧
        after = cursor.advance (cursor.rest.takeWhile fun char => !endsBareWord char).length := by
  simp only [readBareWord]
  constructor
  · intro read
    split at read
    · cases read
    · next written =>
        split at read
        · next plain =>
            cases read
            exact ⟨rfl, by simpa using written, plain, rfl⟩
        · cases read
  · rintro ⟨rfl, written, plain, rfl⟩
    simp [written, plain]

/-- What is left of a span without the white space around it is a bare word exactly when the
pattern matches it up to its end. -/
theorem all_isBareWordChar_strip {span : List Char} (written : strip span ≠ []) :
    (strip span).all isBareWordChar = (bareWordPattern.matchLine? (strip span)).isSome := by
  rw [Bool.eq_iff_iff, List.all_eq_true, Pattern.isSome_matchLine?_iff]
  simp only [bareWordPattern, Pattern.takes_atLeastOnce_oneOf_iff]
  constructor
  · exact fun plain => ⟨_, [], ⟨⟨written, plain⟩, rfl⟩, .inl rfl⟩
  · rintro ⟨line, _, ⟨⟨_, plain⟩, _⟩, same | ended⟩
    · rwa [same]
    · exact (strip_ne_append_newline span line ended).elim

/-- The first characters of a text decide how it is quoted. -/
theorem readText_eq (cursor : Cursor) :
    readText cursor =
      (if ['"', '"', '"'].isPrefixOf cursor.rest then readLong '"' cursor
      else if ['\'', '\'', '\''].isPrefixOf cursor.rest then readLong '\'' cursor
      else if cursor.rest.head? = some '"' then readBasic cursor
      else if cursor.rest.head? = some '\'' then readLiteral cursor
      else readBareWord cursor).map fun (chars, after) => (String.ofList chars, after) := by
  rw [readText]
  refine congrArg (Except.map _) ?_
  split
  · next rest opened => simp [opened]
  · next rest opened => simp [opened]
  · next rest notLong opened =>
      have notThree : ¬['"', '"'] <+: rest := by
        rintro ⟨left, whole⟩
        exact notLong left (by simp [← whole])
      simp [opened, notThree]
  · next rest notLong opened =>
      have notThree : ¬['\'', '\''] <+: rest := by
        rintro ⟨left, whole⟩
        exact notLong left (by simp [← whole])
      simp [opened, notThree]
  · next notLong notLongLiteral notDouble notSingle =>
      cases rest : cursor.rest with
      | nil => simp
      | cons char text =>
          have double : char ≠ '"' := fun same => notDouble text (same ▸ rest)
          have single : char ≠ '\'' := fun same => notSingle text (same ▸ rest)
          simp [double, single, Ne.symm double, Ne.symm single]

theorem readText_passesSome {cursor after : Cursor} {content : String}
    (read : readText cursor = .ok (content, after)) : cursor.PassesSome after := by
  rw [readText_eq, map_eq_ok_iff] at read
  obtain ⟨⟨chars, stopped⟩, read, same⟩ := read
  cases same
  have begun : ∀ {front : List Char} {count : Nat}, front.isPrefixOf cursor.rest = true →
      front ≠ [] → 0 < count → cursor.PassesSome (cursor.advance count) := by
    intro front count opens written taken
    obtain ⟨left, whole⟩ := List.isPrefixOf_iff_prefix.1 opens
    exact Cursor.passesSome_advance (by simp [← whole, written]) taken
  have quoted : ∀ {quote : Char}, cursor.rest.head? = some quote →
      cursor.PassesSome (cursor.advance 1) := by
    intro quote first
    refine Cursor.passesSome_advance ?_ Nat.one_pos
    rintro empty
    simp [empty] at first
  split at read
  · next opens => exact (begun opens (by simp) (by omega)).trans (readLong_passes read)
  · split at read
    · next opens => exact (begun opens (by simp) (by omega)).trans (readLong_passes read)
    · split at read
      · next first => exact (quoted first).trans (readBasic_passes read)
      · split at read
        · next first => exact (quoted first).trans (readLiteral_passes read)
        · obtain ⟨stripped, written, _, rfl⟩ := readBareWord_eq_ok_iff.1 read
          have spanned : cursor.rest.takeWhile (fun char => !endsBareWord char) ≠ [] := by
            intro empty
            rw [empty] at stripped
            exact written (stripped.symm.trans rfl)
          refine Cursor.passesSome_advance ?_ (List.length_pos_iff.2 spanned)
          rintro empty
          simp [empty] at spanned

/-- What may come next in an array: its end, or a text and what separates it from the next. -/
theorem readItem_eq (opening : Nat) (cursor : Cursor) :
    readItem opening cursor =
      if cursor.skipFiller.rest = [] then .error ⟨.unclosedArray, opening⟩
      else if cursor.skipFiller.rest.head? = some ']' then
        .ok (.stop, cursor.skipFiller.advance 1)
      else if cursor.skipFiller.rest.head? = some '\x7b' ∨
          cursor.skipFiller.rest.head? = some '[' then
        .error (cursor.skipFiller.fault .nestedItem)
      else (readText cursor.skipFiller).bind fun found =>
        if found.2.skipFiller.rest.head? = some ',' then
          .ok (.more found.1, found.2.skipFiller.advance 1)
        else if found.2.skipFiller.rest.head? = some ']' then
          .ok (.last found.1, found.2.skipFiller.advance 1)
        else if found.2.skipFiller.rest = [] then .error ⟨.unclosedArray, opening⟩
        else .error (found.2.skipFiller.fault .missingItemSeparator) := by
  simp only [readItem]
  split
  · next ended => simp [ended]
  · next rest closed => simp [closed]
  · next rest table => simp [table]
  · next rest array => simp [array]
  · next goesOn notClosed notTable notArray =>
      rw [if_neg goesOn, if_neg (head?_ne_of_forall notClosed),
        if_neg (not_or.2 ⟨head?_ne_of_forall notTable, head?_ne_of_forall notArray⟩)]
      cases readText cursor.skipFiller with
      | error fault => rfl
      | ok found =>
          simp only [Except.bind]
          split
          · next rest separated => simp [separated]
          · next rest ended => simp [ended]
          · next ended => simp [ended]
          · next notSeparated notEnded goesOn =>
              rw [if_neg (head?_ne_of_forall notSeparated), if_neg (head?_ne_of_forall notEnded),
                if_neg goesOn]

theorem readItem_cases {opening : Nat} {cursor after : Cursor} {item : Next String}
    (read : readItem opening cursor = .ok (item, after)) :
    (∃ rest, cursor.skipFiller.rest = ']' :: rest ∧ item = .stop ∧
        after = cursor.skipFiller.advance 1) ∨
      ∃ char rest content middle, cursor.skipFiller.rest = char :: rest ∧ char ≠ ']' ∧
        char ≠ '\x7b' ∧ char ≠ '[' ∧ readText cursor.skipFiller = .ok (content, middle) ∧
        ((∃ rest, middle.skipFiller.rest = ',' :: rest ∧ item = .more content) ∨
          ∃ rest, middle.skipFiller.rest = ']' :: rest ∧ item = .last content) ∧
        after = middle.skipFiller.advance 1 := by
  simp only [readItem] at read
  split at read
  · cases read
  · next rest closed =>
      cases read
      exact .inl ⟨rest, closed, rfl, rfl⟩
  · cases read
  · cases read
  · next notEmpty notClosed notTable notArray =>
      cases opened : cursor.skipFiller.rest with
      | nil => exact (notEmpty opened).elim
      | cons char text =>
          refine .inr ?_
          split at read
          · cases read
          · next content middle found =>
              refine ⟨char, text, content, middle, rfl, ?_, ?_, ?_, found, ?_⟩
              · exact fun same => notClosed text (same ▸ opened)
              · exact fun same => notTable text (same ▸ opened)
              · exact fun same => notArray text (same ▸ opened)
              · split at read
                · next rest separated =>
                    cases read
                    exact ⟨.inl ⟨rest, separated, rfl⟩, rfl⟩
                · next rest closed =>
                    cases read
                    exact ⟨.inr ⟨rest, closed, rfl⟩, rfl⟩
                · cases read
                · cases read

theorem readItem_close {opening : Nat} {cursor : Cursor}
    (closed : cursor.skipFiller.rest.head? = some ']') :
    readItem opening cursor = .ok (.stop, cursor.skipFiller.advance 1) := by
  obtain ⟨rest, closed⟩ := List.head?_eq_some_iff.1 closed
  simp only [readItem, closed]

/-- An item is read as a text, and what separates it says whether it is the last. -/
theorem readItem_text {opening : Nat} {cursor middle : Cursor} {char : Char} {content : String}
    (opened : cursor.skipFiller.rest.head? = some char) (notClosed : char ≠ ']')
    (notTable : char ≠ '\x7b') (notArray : char ≠ '[')
    (read : readText cursor.skipFiller = .ok (content, middle)) :
    (middle.skipFiller.rest.head? = some ',' →
        readItem opening cursor = .ok (.more content, middle.skipFiller.advance 1)) ∧
      (middle.skipFiller.rest.head? = some ']' →
        readItem opening cursor = .ok (.last content, middle.skipFiller.advance 1)) := by
  obtain ⟨rest, opened⟩ := List.head?_eq_some_iff.1 opened
  constructor
  · intro separated
    obtain ⟨others, separated⟩ := List.head?_eq_some_iff.1 separated
    simp [readItem, opened, notClosed, notTable, notArray, read, separated]
  · intro closed
    obtain ⟨others, closed⟩ := List.head?_eq_some_iff.1 closed
    simp [readItem, opened, notClosed, notTable, notArray, read, closed]

theorem progressive_readItem (opening : Nat) : Progressive (readItem opening) := by
  apply Progressive.of_passesSome
  intro cursor after item read
  refine (Cursor.passes_skipFiller cursor).trans_some ?_
  rcases readItem_cases read with ⟨rest, closed, _, rfl⟩ |
    ⟨char, rest, content, middle, _, _, _, _, found, _, rfl⟩
  · exact Cursor.passesSome_advance (by simp [closed]) Nat.one_pos
  · exact (readText_passesSome found).trans
      ((Cursor.passes_skipFiller middle).trans (Cursor.passes_advance _ 1))

theorem readArray_eq_ok_iff {cursor after : Cursor} {items : List String} :
    readArray cursor = .ok (items, after) ↔
      Reads (readItem cursor.line) (cursor.advance 1) items after :=
  many_result_iff (progressive_readItem _)

theorem readArray_passes {cursor after : Cursor} {items : List String}
    (read : readArray cursor = .ok (items, after)) : (cursor.advance 1).Passes after :=
  (readArray_eq_ok_iff.1 read).passes (progressive_readItem _)

end VersionCatalog.Document
