import VersionCatalog.Proofs.Document.Values
import VersionCatalog.Proofs.Text.Blank

/-!
# What is taken with a line

A document succeeds when its lines can be read one after the other to the end of the text, and no
section is declared again. `ofText_eq_ok_iff` says so by `Reads`, which is how the theorems about
whole documents look at it.
-/

namespace VersionCatalog.Document

open Text

/-- A character of a header between its brackets. -/
def isHeaderChar (char : Char) : Bool :=
  char != ']' && char != '\n'

theorem readHeader_eq_ok_iff {cursor after : Cursor} {name : String} :
    readHeader cursor = .ok (name, after) ↔
      ∃ span rest, (cursor.advance 1).rest = span ++ ']' :: rest ∧
        (∀ char ∈ span, isHeaderChar char = true) ∧ span.head? ≠ some '[' ∧ strip span ≠ [] ∧
        String.ofList (strip span) = name ∧
        Cursor.finishLine ⟨rest, (cursor.advance 1).line⟩ (.header name) = .ok after := by
  have spanned : ∀ text : List Char,
      text.takeWhile (fun char => char != ']' && char != '\n') =
        text.takeWhile isHeaderChar := fun _ => rfl
  simp only [readHeader, Cursor.peek?, spanned, drop_length_takeWhile]
  constructor
  · intro read
    split at read
    · cases read
    · next single =>
        split at read
        · next rest closed =>
            split at read
            · cases read
            · next named =>
                obtain ⟨stopped, finished, same⟩ := map_eq_ok_iff.1 read
                cases same
                refine ⟨(cursor.advance 1).rest.takeWhile isHeaderChar, rest, ?_,
                  fun _ => forall_mem_takeWhile, ?_, ?_, rfl, finished⟩
                · rw [← closed, List.takeWhile_append_dropWhile]
                · intro first
                  obtain ⟨others, opened⟩ := List.head?_eq_some_iff.1 first
                  apply single
                  rw [← List.takeWhile_append_dropWhile (p := isHeaderChar)
                    (l := (cursor.advance 1).rest), opened]
                  rfl
                · intro blank
                  simp [blank] at named
        · cases read
  · rintro ⟨span, rest, whole, oneLine, single, named, rfl, finished⟩
    have closes : Stops isHeaderChar (']' :: rest) := stops_cons rfl
    have opens : (span ++ ']' :: rest).head? ≠ some '[' := by
      cases span with
      | nil => simp
      | cons char span => simpa using single
    rw [whole, takeWhile_of_stops oneLine closes, dropWhile_of_stops oneLine closes]
    rw [if_neg opens]
    simp [named, finished, Except.map]

theorem readHeader_passes {cursor after : Cursor} {name : String}
    (read : readHeader cursor = .ok (name, after)) : (cursor.advance 1).Passes after := by
  obtain ⟨span, rest, whole, oneLine, _, _, _, finished⟩ := readHeader_eq_ok_iff.1 read
  refine Cursor.Passes.trans ?_ (Cursor.passes_finishLine finished)
  refine Cursor.passes_of_append (span ++ [']']) (by simp [whole]) rfl ?_
  intro member
  rcases List.mem_append.1 member with inside | closing
  · exact absurd (oneLine _ inside) (by decide)
  · simp at closing

theorem readHeader_passesSome {cursor after : Cursor} {name : String}
    (read : readHeader cursor = .ok (name, after)) : cursor.PassesSome after := by
  obtain ⟨span, rest, whole, _⟩ := readHeader_eq_ok_iff.1 read
  have goesOn : cursor.rest ≠ [] := by
    intro ended
    simp [Cursor.advance, ended] at whole
  exact (Cursor.passesSome_advance goesOn Nat.one_pos).trans (readHeader_passes read)

@[simp] theorem headerNames_append (front back : List Line) :
    headerNames (front ++ back) = headerNames front ++ headerNames back := by
  induction front with
  | nil => rfl
  | cons line front induction => cases line <;> simp [headerNames, induction]

/-- No header is repeated when the names differ from each other and from those declared. -/
theorem repeatedHeader?_eq_none_iff {declared : List String} {lines : List Line} :
    repeatedHeader? declared lines = none ↔
      (headerNames lines).Nodup ∧ ∀ name ∈ headerNames lines, name ∉ declared := by
  induction lines generalizing declared with
  | nil => simp [repeatedHeader?, headerNames]
  | cons line lines induction =>
      cases line with
      | assignment key value line => simpa [repeatedHeader?, headerNames] using induction
      | header name line =>
          simp only [repeatedHeader?, headerNames, List.nodup_cons, List.mem_cons,
            forall_eq_or_imp]
          split
          · next again => simp [again]
          · next fresh =>
              rw [induction]
              simp only [List.mem_cons, not_or]
              constructor
              · rintro ⟨distinct, others⟩
                exact ⟨⟨fun member => (others name member).1 rfl, distinct⟩, fresh,
                  fun other member => (others other member).2⟩
              · rintro ⟨⟨notLater, distinct⟩, _, others⟩
                refine ⟨distinct, fun other member => ⟨?_, others other member⟩⟩
                rintro rfl
                exact notLater member

theorem cause_of_repeatedHeader? {declared : List String} {lines : List Line} {fault : Fault}
    (again : repeatedHeader? declared lines = some fault) :
    ∃ name, fault.cause = .repeatedSection name := by
  induction lines generalizing declared with
  | nil => cases again
  | cons line lines induction =>
      cases line with
      | assignment key value line => exact induction again
      | header name line =>
          simp only [repeatedHeader?] at again
          split at again
          · cases again
            exact ⟨name, rfl⟩
          · exact induction again

theorem dropMark_of_unmarked {text : List Char} (unmarked : text.head? ≠ some '\ufeff') :
    dropMark text = text := by
  cases text with
  | nil => rfl
  | cons char text =>
      have notMark : char ≠ '\ufeff' := by simpa using unmarked
      simp [dropMark, notMark]

theorem dropMark_suffix (text : List Char) : dropMark text <:+ text := by
  unfold dropMark
  split
  · exact List.suffix_cons _ _
  · exact List.suffix_rfl

theorem isKeyChar_of_isBlank {char : Char} (blank : isBlank char = true) :
    isKeyChar char = false := by
  have lowLine : char ≠ '_' := by
    rintro rfl
    revert blank
    decide
  have hyphen : char ≠ '-' := by
    rintro rfl
    revert blank
    decide
  simp [isKeyChar, isAlphanumeric_of_isBlank blank, lowLine, hyphen]

/-- White space begins no key. -/
theorem readKey_of_blank {cursor after : Cursor} {key : String}
    (blank : ∀ char ∈ cursor.rest, isBlank char = true) :
    readKey cursor ≠ .ok (key, after) := by
  intro read
  obtain ⟨first, others, middle, opened, _, _⟩ := readKey_eq_ok_iff.1 read
  rcases readKeyPart_cases opened with ⟨rest, quoted, _⟩ | ⟨rest, quoted, _⟩ |
    ⟨_, _, written, span, _⟩
  · exact absurd (blank '"' (by simp [quoted])) (by decide)
  · exact absurd (blank '\'' (by simp [quoted])) (by decide)
  · obtain ⟨char, part, same⟩ := List.exists_cons_of_ne_nil written
    have member : char ∈ cursor.rest.takeWhile isKeyChar := by simp [← span, same]
    have inside : char ∈ cursor.rest := (List.takeWhile_sublist isKeyChar).mem member
    have keyed := forall_mem_takeWhile member
    rw [isKeyChar_of_isBlank (blank char inside)] at keyed
    contradiction

/-! ## Assignments and lines -/

variable [CallStack]

theorem readAssignment_eq_ok_iff {cursor after : Cursor} {key : String} {value : Node} :
    readAssignment cursor = .ok ((key, value), after) ↔
      ∃ middle stopped, readKey cursor = .ok (key, middle) ∧
        middle.skipInline.rest.head? = some '=' ∧
        readValue (middle.skipInline.advance 1).skipInline = .ok (value, stopped) ∧
        stopped.finishLine (.value key) = .ok after := by
  simp only [readAssignment]
  constructor
  · intro read
    split at read
    · cases read
    · next name middle named =>
        split at read
        · cases read
        · next assigned =>
            split at read
            · cases read
            · next node stopped found =>
                obtain ⟨ended, finished, same⟩ := map_eq_ok_iff.1 read
                cases same
                exact ⟨middle, stopped, named, Classical.not_not.1 assigned, found, finished⟩
  · rintro ⟨middle, stopped, named, assigned, found, finished⟩
    have peeked : middle.skipInline.peek? = some '=' := assigned
    simp [named, peeked, found, finished, Except.map]

theorem readAssignment_eq (cursor : Cursor) :
    readAssignment cursor = (readKey cursor).bind fun named =>
      if named.2.skipInline.rest.head? = some '=' then
        (readValue (named.2.skipInline.advance 1).skipInline).bind fun found =>
          (found.2.finishLine (.value named.1)).map fun after => ((named.1, found.1), after)
      else .error (named.2.skipInline.fault (.missingEquals named.1)) := by
  simp only [readAssignment]
  cases readKey cursor with
  | error fault => rfl
  | ok named =>
      by_cases assigned : named.2.skipInline.rest.head? = some '='
      · simp only [Except.bind, Cursor.peek?, assigned, ne_eq, not_true_eq_false, if_false,
          if_true]
        cases readValue (named.2.skipInline.advance 1).skipInline with
        | error fault => rfl
        | ok found => rfl
      · simp [Except.bind, Cursor.peek?, assigned]

theorem readAssignment_passesSome {cursor after : Cursor} {key : String} {value : Node}
    (read : readAssignment cursor = .ok ((key, value), after)) : cursor.PassesSome after := by
  obtain ⟨middle, stopped, named, _, found, finished⟩ := readAssignment_eq_ok_iff.1 read
  refine (readKey_passesSome named).trans ?_
  refine (Cursor.passes_separator middle).trans ?_
  exact (readValue_passesSome found).1.trans (Cursor.passes_finishLine finished)

theorem readLine_eq (cursor : Cursor) :
    readLine cursor =
      if cursor.skipFiller.rest = [] then .ok (.stop, cursor.skipFiller)
      else if cursor.skipFiller.rest.head? = some '[' then
        (readHeader cursor.skipFiller).map fun found =>
          (.more (.header found.1 cursor.skipFiller.line), found.2)
      else (readAssignment cursor.skipFiller).map fun found =>
        (.more (.assignment found.1.1 found.1.2 cursor.skipFiller.line), found.2) := by
  simp only [readLine]
  split
  · next ended => rw [if_pos ended]
  · next rest opened => simp [opened]
  · next goesOn notHeader =>
      rw [if_neg goesOn, if_neg (head?_ne_of_forall notHeader)]

/-- What may come next in a document: its end, a header, or an assignment. -/
theorem readLine_cases {cursor after : Cursor} {item : Next Line}
    (read : readLine cursor = .ok (item, after)) :
    (cursor.skipFiller.rest = [] ∧ item = .stop ∧ after = cursor.skipFiller) ∨
      (∃ name, cursor.skipFiller.rest.head? = some '[' ∧
        item = .more (.header name cursor.skipFiller.line) ∧
        readHeader cursor.skipFiller = .ok (name, after)) ∨
      ∃ key value, cursor.skipFiller.rest ≠ [] ∧ cursor.skipFiller.rest.head? ≠ some '[' ∧
        item = .more (.assignment key value cursor.skipFiller.line) ∧
        readAssignment cursor.skipFiller = .ok ((key, value), after) := by
  simp only [readLine] at read
  split at read
  · next ended =>
      cases read
      exact .inl ⟨ended, rfl, rfl⟩
  · next rest opened =>
      obtain ⟨⟨name, stopped⟩, found, same⟩ := map_eq_ok_iff.1 read
      cases same
      exact .inr (.inl ⟨name, by simp [opened], rfl, found⟩)
  · next goesOn notHeader =>
      obtain ⟨⟨⟨key, value⟩, stopped⟩, found, same⟩ := map_eq_ok_iff.1 read
      cases same
      exact .inr (.inr ⟨key, value, goesOn, head?_ne_of_forall notHeader, rfl, found⟩)

theorem readLine_eq_stop {cursor after : Cursor} (read : readLine cursor = .ok (.stop, after)) :
    cursor.skipFiller.rest = [] ∧ after = cursor.skipFiller := by
  rcases readLine_cases read with ⟨ended, _, stopped⟩ | ⟨_, _, item, _⟩ | ⟨_, _, _, _, item, _⟩
  · exact ⟨ended, stopped⟩
  · cases item
  · cases item

/-- Lines are followed until the text ends. -/
theorem readLine_ne_last {cursor after : Cursor} {line : Line} :
    readLine cursor ≠ .ok (.last line, after) := by
  intro read
  rcases readLine_cases read with ⟨_, item, _⟩ | ⟨_, _, item, _⟩ | ⟨_, _, _, _, item, _⟩
  · cases item
  · cases item
  · cases item

theorem readLine_eq_more {cursor after : Cursor} {line : Line}
    (read : readLine cursor = .ok (.more line, after)) :
    (∃ name, cursor.skipFiller.rest.head? = some '[' ∧
        line = .header name cursor.skipFiller.line ∧
        readHeader cursor.skipFiller = .ok (name, after)) ∨
      ∃ key value, cursor.skipFiller.rest ≠ [] ∧ cursor.skipFiller.rest.head? ≠ some '[' ∧
        line = .assignment key value cursor.skipFiller.line ∧
        readAssignment cursor.skipFiller = .ok ((key, value), after) := by
  rcases readLine_cases read with ⟨_, item, _⟩ | ⟨name, opened, item, found⟩ |
    ⟨key, value, goesOn, notHeader, item, found⟩
  · cases item
  · cases item
    exact .inl ⟨name, opened, rfl, found⟩
  · cases item
    exact .inr ⟨key, value, goesOn, notHeader, rfl, found⟩

theorem readLine_end {cursor : Cursor} (ended : cursor.skipFiller.rest = []) :
    readLine cursor = .ok (.stop, cursor.skipFiller) := by
  simp only [readLine, ended]

theorem readLine_header {cursor after : Cursor} {name : String}
    (opened : cursor.skipFiller.rest.head? = some '[')
    (read : readHeader cursor.skipFiller = .ok (name, after)) :
    readLine cursor = .ok (.more (.header name cursor.skipFiller.line), after) := by
  obtain ⟨rest, opened⟩ := List.head?_eq_some_iff.1 opened
  simp only [readLine, opened, read]
  rfl

theorem readLine_assignment {cursor after : Cursor} {key : String} {value : Node}
    (goesOn : cursor.skipFiller.rest ≠ []) (notHeader : cursor.skipFiller.rest.head? ≠ some '[')
    (read : readAssignment cursor.skipFiller = .ok ((key, value), after)) :
    readLine cursor = .ok (.more (.assignment key value cursor.skipFiller.line), after) := by
  simp only [readLine, read]
  split
  · next ended => exact (goesOn ended).elim
  · next rest opened => simp [opened] at notHeader
  · rfl

/-- A line is read after the filler before it. -/
theorem readLine_congr {left right : Cursor} (same : left.skipFiller = right.skipFiller) :
    readLine left = readLine right := by
  simp only [readLine, same]

theorem progressive_readLine : Progressive readLine := by
  have taken : ∀ {cursor after : Cursor} {line : Line},
      readLine cursor = .ok (.more line, after) → cursor.PassesSome after := by
    intro cursor after line read
    refine (Cursor.passes_skipFiller cursor).trans_some ?_
    rcases readLine_eq_more read with ⟨name, _, _, found⟩ | ⟨key, value, _, _, _, found⟩
    · exact readHeader_passesSome found
    · exact readAssignment_passesSome found
  constructor
  · intro cursor after item read
    cases item with
    | stop =>
        obtain ⟨_, rfl⟩ := readLine_eq_stop read
        exact Cursor.passes_skipFiller cursor
    | last line => exact (readLine_ne_last read).elim
    | more line => exact (taken read).1
  · intro cursor after line read
    exact (taken read).2

/-- Filler before the first line makes no difference to the lines. -/
theorem many_readLine_congr {left right : Cursor} (same : left.skipFiller = right.skipFiller) :
    many readLine left = many readLine right := by
  rw [many_eq progressive_readLine, readLine_congr same, ← many_eq progressive_readLine]

/-! ## Whole documents -/

/-- The lines of a text are those that can be read one after the other to its end. -/
theorem reads_start_iff {text : List Char} {lines : List Line} {after : Cursor} :
    Reads readLine (Cursor.start text) lines after ↔
      (readLines text).items = lines ∧ (readLines text).ending = .ok after := by
  rw [← many_result_iff progressive_readLine, readLines, Items.result, map_eq_ok_iff]
  simp only [Prod.mk.injEq]
  constructor
  · rintro ⟨stopped, ended, rfl, rfl⟩
    exact ⟨rfl, ended⟩
  · rintro ⟨rfl, ended⟩
    exact ⟨after, ended, rfl, rfl⟩

/-- A text is a document when its lines can be read to the end and declare no section twice. -/
theorem ofText_eq_ok_iff {text : String} {document : Document} :
    ofText text = .ok document ↔
      ∃ lines after, Reads readLine (Cursor.start (dropMark text.toList)) lines after ∧
        (headerNames lines).Nodup ∧ document = ⟨headerNames lines, entriesIn "" lines⟩ := by
  simp only [ofText, reads_start_iff]
  constructor
  · intro read
    split at read
    · cases read
    · cases read
    · next after unrepeated ended =>
        cases read
        exact ⟨_, after, ⟨rfl, ended⟩, (repeatedHeader?_eq_none_iff.1 unrepeated).1, rfl⟩
  · rintro ⟨lines, after, ⟨rfl, ended⟩, distinct, rfl⟩
    have unrepeated : repeatedHeader? [] (readLines (dropMark text.toList)).items = none :=
      repeatedHeader?_eq_none_iff.2 ⟨distinct, by simp⟩
    simp [unrepeated, ended]

/-- A line is read somewhere in the text. -/
theorem Reads.exists_readLine {cursor after : Cursor} {lines : List Line} {line : Line}
    (reads : Reads readLine cursor lines after) (member : line ∈ lines) :
    ∃ reached stopped, cursor.Passes reached ∧ readLine reached = .ok (.more line, stopped) := by
  induction reads with
  | stop => simp at member
  | last read => exact (readLine_ne_last read).elim
  | more read others induction =>
      rcases List.mem_cons.1 member with rfl | later
      · exact ⟨_, _, .refl _, read⟩
      · obtain ⟨reached, stopped, passes, found⟩ := induction later
        exact ⟨reached, stopped, (progressive_readLine.passes read).trans passes, found⟩

/-! ## Blank texts -/

/-- White space holds no lines. -/
theorem Reads.eq_nil_of_blank {cursor after : Cursor} {lines : List Line}
    (reads : Reads readLine cursor lines after)
    (blank : ∀ char ∈ cursor.rest, isBlank char = true) : lines = [] := by
  obtain ⟨passed, whole, _⟩ := Cursor.passes_skipFiller cursor
  have left : ∀ char ∈ cursor.skipFiller.rest, isBlank char = true := by
    intro char member
    exact blank char (by simp [whole, member])
  cases reads with
  | stop => rfl
  | last read => exact (readLine_ne_last read).elim
  | more read =>
      rcases readLine_eq_more read with ⟨name, opened, _, _⟩ | ⟨key, value, _, _, _, found⟩
      · exact absurd (left '[' (List.mem_of_mem_head? opened)) (by decide)
      · obtain ⟨middle, _, named, _⟩ := readAssignment_eq_ok_iff.1 found
        exact (readKey_of_blank left named).elim

/-- A blank text declares nothing, if it is a document at all. -/
theorem ofText_of_blank {text : String} {document : Document}
    (nothing : strip text.toList = []) (readable : ofText text = .ok document) :
    document = ⟨[], []⟩ := by
  have blank : ∀ char ∈ text.toList, isBlank char = true := by
    simpa [isBlankText] using strip_eq_nil_iff.1 nothing
  have unmarked : dropMark text.toList = text.toList := by
    apply dropMark_of_unmarked
    intro mark
    exact absurd (blank '\ufeff' (List.mem_of_mem_head? mark)) (by decide)
  obtain ⟨lines, after, reads, _, rfl⟩ := ofText_eq_ok_iff.1 readable
  rw [unmarked] at reads
  rw [reads.eq_nil_of_blank blank]
  rfl

end VersionCatalog.Document
