import VersionCatalog.Proofs.Document.RoundTrip
import VersionCatalog.Proofs.Text.Assignment

/-!
# Plain texts

A plain text has a header or an assignment of a quoted value on each of its lines. Its names and
keys are words, and nothing in it is escaped. Reading it as a document and searching it for
assignments are two ways to the same assignments: each takes the lines one after the other, and
neither looks back from one line to the lines before it.
-/

namespace VersionCatalog.Document

open Text

/-- A name or a key without anything but word characters. -/
structure Word where
  text : String
  nonempty : text ≠ ""
  written : ∀ char ∈ text.toList, isWord char = true

/-- A value that is written between double quotes as it is. -/
structure PlainValue where
  text : String
  nonempty : text ≠ ""
  unquoted : '"' ∉ text.toList
  unescaped : '\\' ∉ text.toList
  unequal : '=' ∉ text.toList
  oneLine : '\n' ∉ text.toList

inductive PlainLine where
  | header (name : Word)
  | assignment (key : Word) (value : PlainValue)

namespace PlainLine

def text : PlainLine → List Char
  | header name => '[' :: name.text.toList ++ [']']
  | assignment key value => Text.assignment key.text.toList value.text.toList

/-- The name that a line declares. -/
def name? : PlainLine → Option String
  | header name => some name.text
  | assignment _ _ => none

/-- What a line assigns, with the key. -/
def assigned? : PlainLine → Option (Word × PlainValue)
  | header _ => none
  | assignment key value => some (key, value)

/-- What is read for a line with a given number. -/
def read (number : Nat) : PlainLine → Line
  | header name => .header name.text number
  | assignment key value => .assignment key.text (.text value.text) number

end PlainLine

/-- Lines that declare no section twice, and whether a line feed ends the last of them too. -/
structure PlainText where
  lines : List PlainLine
  distinct : (lines.filterMap PlainLine.name?).Nodup
  closed : Bool

namespace PlainText

def text (plain : PlainText) : String :=
  String.ofList
    (['\n'].intercalate (plain.lines.map PlainLine.text) ++ if plain.closed then ['\n'] else [])

/-- The assignments in order. -/
def assigned (plain : PlainText) : List (Word × PlainValue) :=
  plain.lines.filterMap PlainLine.assigned?

end PlainText

/-- What is read for plain lines of which the first has a given number. -/
def plainLinesFrom (number : Nat) : List PlainLine → List Line
  | [] => []
  | line :: lines => line.read number :: plainLinesFrom (number + 1) lines

/-- The document that is meant. -/
def PlainText.meaning (plain : PlainText) : Document :=
  ⟨headerNames (plainLinesFrom 1 plain.lines), entriesIn "" (plainLinesFrom 1 plain.lines)⟩

/-! ## Words and values -/

theorem isFillerChar_of_isWord {char : Char} (written : isWord char = true) :
    isFillerChar char = false := by
  have filler : (['\n', ' ', '\t', '\r', '#'].all fun other => !isWord other) = true := by
    decide +kernel
  have differs : ∀ other ∈ ['\n', ' ', '\t', '\r', '#'], char ≠ other := by
    rintro other member rfl
    simpa [written] using List.all_eq_true.1 filler char member
  simp only [List.forall_mem_cons] at differs
  simp [isFillerChar, isInlineBlank, differs]

namespace Word

variable {char : Char} (word : Word)

theorem toList_ne_nil : word.text.toList ≠ [] := by
  simpa using word.nonempty

theorem not_mem (other : isWord char = false) : char ∉ word.text.toList := by
  intro member
  rw [word.written char member] at other
  contradiction

/-- A word, and so what goes on after it, begins with a word character. -/
theorem isWord_of_head? {later : List Char}
    (first : (word.text.toList ++ later).head? = some char) : isWord char = true := by
  obtain ⟨opening, rest, whole⟩ := List.exists_cons_of_ne_nil word.toList_ne_nil
  refine word.written char ?_
  rw [whole, List.cons_append, List.head?_cons, Option.some.injEq] at first
  simp [whole, first]

theorem head?_append_ne (other : isWord char = false) (later : List Char) :
    (word.text.toList ++ later).head? ≠ some char := by
  intro first
  rw [word.isWord_of_head? first] at other
  contradiction

theorem count_toList : word.text.toList.count '\n' = 0 :=
  List.count_eq_zero.2 (word.not_mem (by decide +kernel))

/-- A word as the name of a section. -/
def headed : WrittenSection where
  name := word.text
  entries := []
  named := word.nonempty
  unclosed := word.not_mem isBarrier_bracket.notWord
  oneLine := word.not_mem (by decide +kernel)
  single := by simpa using word.head?_append_ne (show isWord '[' = false by decide +kernel) []
  stripped := strip_of_unblank fun char member => isBlank_of_isWord (word.written char member)

/-- A word is read as a key, together with the space after it. -/
theorem readKey_append (later : List Char) (line : Nat) :
    readKey ⟨word.text.toList ++ ' ' :: '=' :: later, line⟩ =
      .ok (word.text, ⟨'=' :: later, line⟩) := by
  have keyed : ∀ char ∈ word.text.toList, isKeyChar char = true := by
    intro char member
    have written := word.written char member
    rw [isWord] at written
    rw [isKeyChar, written, Bool.true_or]
  have span : (word.text.toList ++ ' ' :: '=' :: later).takeWhile isKeyChar = word.text.toList :=
    takeWhile_of_stops keyed (stops_cons (by decide +kernel))
  have first := @readKeyPart_word ⟨word.text.toList ++ ' ' :: '=' :: later, line⟩
    (word.head?_append_ne isBarrier_quote.notWord _)
    (word.head?_append_ne (by decide +kernel) _) (by simpa only [span] using word.toList_ne_nil)
  have behind : (⟨word.text.toList ++ ' ' :: '=' :: later, line⟩ : Cursor).advance
      word.text.toList.length = ⟨' ' :: '=' :: later, line⟩ :=
    advance_length rfl (List.count_eq_zero.1 word.count_toList)
  simp only [span, behind] at first
  have skipped : (⟨' ' :: '=' :: later, line⟩ : Cursor).skipInline = ⟨'=' :: later, line⟩ := rfl
  have ended := @readDottedPart_stop ⟨' ' :: '=' :: later, line⟩ (by simp [skipped])
  rw [skipped] at ended
  refine readKey_eq_ok_iff.2 ⟨_, [], _, first, .stop ended, ?_⟩
  rw [List.intercalate_singleton, String.ofList_toList]

end Word

/-- Nothing has to be escaped in a plain value. -/
theorem PlainValue.quoted_text (value : PlainValue) :
    quoted value.text = '"' :: value.text.toList ++ ['"'] := by
  have same : ∀ char ∈ value.text.toList, escaped char = [char] := by
    intro char member
    unfold escaped
    split
    · exact (value.unescaped member).elim
    · exact (value.unquoted member).elim
    · exact (value.oneLine member).elim
    · rfl
  rw [quoted, List.flatMap_def, List.map_congr_left same, ← List.flatMap_def,
    List.flatMap_singleton']

/-! ## Plain texts as documents -/

namespace PlainLine

variable (line : PlainLine)

theorem count_text : line.text.count '\n' = 0 := by
  cases line with
  | header name => simp [text, name.count_toList]
  | assignment key value =>
      simp [text, Text.assignment, key.count_toList, List.count_eq_zero.2 value.oneLine]

theorem head?_text_append_ne (later : List Char) :
    (line.text ++ later).head? ≠ some '\ufeff' := by
  cases line with
  | header name => simp [text]
  | assignment key value =>
      rw [text, Text.assignment, List.append_assoc, List.append_assoc, List.append_assoc]
      exact key.head?_append_ne (by decide +kernel) _

/-- A plain line is read as what it says. -/
theorem reads [CallStack] (number : Nat) :
    Reads readLine ⟨line.text, number⟩ [line.read number] ⟨[], number⟩ := by
  cases line with
  | header name => exact reads_header name.headed number
  | assignment key value =>
      have whole : (assignment key value).text =
          key.text.toList ++ ' ' :: '=' :: ' ' :: quoted value.text := by
        simp [text, Text.assignment, value.quoted_text]
      have named := key.readKey_append (' ' :: quoted value.text) number
      have found := @readValueWithin_characters _ [] number CallStack.tableDepth (.text value.text)
        (Nat.zero_le _) (by simp)
      simp only [List.append_nil, WrittenValue.characters, count_quoted, Nat.add_zero] at found
      have read : readAssignment ⟨(assignment key value).text, number⟩ =
          .ok ((key.text, .text value.text), ⟨[], number⟩) := by
        rw [whole]
        exact readAssignment_eq_ok_iff.2 ⟨_, _, named, rfl, found, rfl⟩
      refine reads_assignment ?_ ?_ ?_ read
      · intro char first
        rw [whole] at first
        exact isFillerChar_of_isWord (key.isWord_of_head? first)
      · simp [whole]
      · rw [whole]
        exact key.head?_append_ne (by decide +kernel) _

end PlainLine

theorem reads_plainLines [CallStack] (lines : List PlainLine) (number : Nat) :
    ∃ final, Reads readLine ⟨['\n'].intercalate (lines.map PlainLine.text), number⟩
      (plainLinesFrom number lines) final := by
  induction lines generalizing number with
  | nil => exact ⟨_, .stop (readLine_end rfl)⟩
  | cons first lines induction =>
      have alone := first.reads number
      obtain ⟨final, others⟩ := induction (number + 1)
      exact Reads.intercalate_cons (by rwa [first.count_text]) (by rwa [first.count_text])

theorem headerNames_plainLinesFrom (lines : List PlainLine) (number : Nat) :
    headerNames (plainLinesFrom number lines) = lines.filterMap PlainLine.name? := by
  induction lines generalizing number with
  | nil => rfl
  | cons first lines induction =>
      cases first with
      | header name => rw [plainLinesFrom, PlainLine.read, headerNames, induction]; rfl
      | assignment key value => rw [plainLinesFrom, PlainLine.read, headerNames, induction]; rfl

theorem map_entriesIn_plainLinesFrom (lines : List PlainLine) (current : String) (number : Nat) :
    (entriesIn current (plainLinesFrom number lines)).map
        (fun entry => (entry.key, entry.value)) =
      (lines.filterMap PlainLine.assigned?).map fun (key, value) =>
        (key.text, .text value.text) := by
  induction lines generalizing current number with
  | nil => rfl
  | cons first lines induction =>
      cases first with
      | header name => exact induction name.text (number + 1)
      | assignment key value =>
          rw [plainLinesFrom, PlainLine.read, entriesIn, List.map_cons, induction]
          rfl

namespace PlainText

variable (plain : PlainText)

theorem toList_text : plain.text.toList =
    ['\n'].intercalate (plain.lines.map PlainLine.text) ++
      if plain.closed then ['\n'] else [] :=
  String.toList_ofList

theorem dropMark_text : dropMark plain.text.toList = plain.text.toList := by
  apply dropMark_of_unmarked
  rw [toList_text]
  cases plain.lines with
  | nil => cases plain.closed <;> decide
  | cons first lines =>
      obtain ⟨later, whole⟩ := intercalate_cons_append first.text (lines.map PlainLine.text)
        (if plain.closed then ['\n'] else [])
      rw [List.map_cons, whole]
      exact first.head?_text_append_ne later

/-- A plain text is read as the document that is meant. -/
theorem ofText_plain [CallStack] : ofText plain.text = .ok plain.meaning := by
  obtain ⟨last, reads⟩ := reads_plainLines plain.lines 1
  obtain ⟨final, whole⟩ := reads.append_feed plain.closed
  rw [← toList_text, ← dropMark_text] at whole
  refine ofText_eq_ok_iff.2 ⟨_, final, whole, ?_, rfl⟩
  rw [headerNames_plainLinesFrom]
  exact plain.distinct

/-- The entries are the assignments. -/
theorem map_entries_meaning :
    plain.meaning.entries.map (fun entry => (entry.key, entry.value)) =
      plain.assigned.map fun (key, value) => (key.text, .text value.text) :=
  map_entriesIn_plainLinesFrom plain.lines "" 1

end PlainText

/-! ## Plain texts searched for assignments -/

/-- A header has no equals sign before its last bracket. -/
theorem PlainLine.header_append (name : Word) (rest : List Char) :
    ∃ front, (header name).text ++ rest = front ++ ']' :: rest ∧ '=' ∉ front := by
  refine ⟨'[' :: name.text.toList, by simp [text], ?_⟩
  simpa using name.not_mem isWord_equals

namespace PlainText

/-- A search that takes the lines of a plain text one after the other finds what it finds in each of
them. -/
theorem search_text {α : Type} {search : List Char → List α} {found : Word × PlainValue → α}
    (nothing : search [] = [])
    (feed : ∀ rest, search ('\n' :: rest) = search rest)
    (header : ∀ (name : Word) rest,
      search ((PlainLine.header name).text ++ rest) = search rest)
    (assignment : ∀ (key : Word) (value : PlainValue) rest,
      search ((PlainLine.assignment key value).text ++ rest) = found (key, value) :: search rest)
    (plain : PlainText) :
    search plain.text.toList = plain.assigned.map found := by
  have ending : search (if plain.closed then ['\n'] else []) = [] := by
    cases plain.closed with
    | false => exact nothing
    | true => exact (feed []).trans nothing
  have line (line : PlainLine) (rest : List Char) : search (line.text ++ rest) =
      (line.assigned?.map found).toList ++ search rest := by
    cases line with
    | header name => exact header name rest
    | assignment key value => exact assignment key value rest
  have goesOn (first : PlainLine) (lines : List PlainLine) :
      ((first :: lines).filterMap PlainLine.assigned?).map found =
        (first.assigned?.map found).toList ++ (lines.filterMap PlainLine.assigned?).map found := by
    cases first <;> rfl
  rw [toList_text, assigned]
  generalize (if plain.closed then ['\n'] else []) = rest at ending ⊢
  induction plain.lines with
  | nil => exact ending
  | cons first lines induction =>
      rw [goesOn, ← induction, ← line]
      cases lines with
      | nil =>
          rw [List.map_singleton, List.intercalate_singleton, line, line]
          rfl
      | cons second lines =>
          rw [List.map_cons, List.map_cons, List.intercalate_cons_cons, List.append_assoc,
            List.append_assoc, line, line, List.singleton_append, feed]

theorem quotedAssignments_text (plain : PlainText) :
    quotedAssignments plain.text.toList =
      plain.assigned.map fun (key, value) => (key.text.toList, value.text.toList) := by
  refine @search_text _ (quotedAssignmentsFrom 0 []) _ rfl ?_ ?_ ?_ plain
  · intro rest
    have notWord : isWord '\n' = false := by decide +kernel
    simp [quotedAssignmentsFrom, notWord]
  · intro name rest
    obtain ⟨front, whole, unequal⟩ := PlainLine.header_append name rest
    rw [whole]
    exact quotedAssignmentsFrom_append_barrier isBarrier_bracket unequal [] rest
  · intro key value rest
    exact quotedAssignmentsFrom_assignment key.written key.toList_ne_nil
      (by simpa using value.nonempty) value.unquoted rest

theorem assignedWords_text (plain : PlainText) :
    assignedWords plain.text.toList = plain.assigned.map fun (key, _) => key.text.toList := by
  refine @search_text _ (assignedWordsFrom []) _ rfl ?_ ?_ ?_ plain
  · intro rest
    have notWord : isWord '\n' = false := by decide +kernel
    simp [assignedWordsFrom, notWord]
  · intro name rest
    obtain ⟨front, whole, unequal⟩ := PlainLine.header_append name rest
    rw [whole]
    exact assignedWordsFrom_append_barrier isBarrier_bracket unequal [] rest
  · intro key value rest
    exact assignedWordsFrom_assignment key.written key.toList_ne_nil value.unequal rest

end PlainText

end VersionCatalog.Document
