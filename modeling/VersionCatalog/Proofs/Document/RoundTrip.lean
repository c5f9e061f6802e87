import VersionCatalog.Proofs.Document.EmbeddedValues
import VersionCatalog.Proofs.Document.WrittenValues

/-!
# Reading documents as they are written

Every header and every entry makes one line when it stands alone. Line breaks put these lines one
after the other, and `ofText_text` follows: reading a written document gives the document that is
meant, whatever its layout, unless its tables are nested too deeply for the call stack.
-/

namespace VersionCatalog.Document

open Text

/-! ## Statements -/

/-- A header or an entry. -/
inductive Statement where
  | header (written : WrittenSection)
  | entry (written : WrittenEntry)

namespace Statement

def text : Statement → List Char
  | header written => written.header
  | entry written => written.text

/-- How many tables stand inside each other in a statement. -/
def nesting : Statement → Nat
  | header _ => 0
  | entry written => written.value.node.nesting

/-- What is read for a statement that begins on a line. -/
def read (line : Nat) : Statement → Line
  | header written => .header written.name line
  | entry written => .assignment (dotted written.target.key.parts) written.value.node line

end Statement

/-- What is read for statements that come after a text. -/
def linesAfter (before : List Char) : List Statement → List Line
  | [] => []
  | statement :: others =>
      statement.read (1 + before.count '\n') ::
        linesAfter (before ++ statement.text ++ ['\n']) others

/-- Joined lines go on from the first of them. -/
theorem intercalate_cons_append (first : List Char) (others : List (List Char))
    (ending : List Char) :
    ∃ later, ['\n'].intercalate (first :: others) ++ ending = first ++ later := by
  cases others with
  | nil => exact ⟨ending, by rw [List.intercalate_singleton]⟩
  | cons second others =>
      exact ⟨_, by rw [List.intercalate_cons_cons, List.append_assoc, List.append_assoc]⟩

def WrittenSection.statements (written : WrittenSection) : List Statement :=
  .header written :: written.entries.map .entry

def WrittenDocument.statements (written : WrittenDocument) : List Statement :=
  written.root.map .entry ++ written.sections.flatMap WrittenSection.statements

theorem map_text_entries (entries : List WrittenEntry) :
    (entries.map Statement.entry).map Statement.text = entries.map WrittenEntry.text := by
  rw [List.map_map]
  rfl

theorem WrittenSection.map_text_statements (written : WrittenSection) :
    written.statements.map Statement.text = written.lines := by
  rw [WrittenSection.statements, List.map_cons, map_text_entries]
  rfl

theorem WrittenDocument.map_text_statements (written : WrittenDocument) :
    written.statements.map Statement.text = written.lines := by
  rw [WrittenDocument.statements, List.map_append, map_text_entries, List.map_flatMap]
  simp only [WrittenSection.map_text_statements]
  rfl

/-- Entries declare no sections. -/
theorem headerNames_linesAfter_entries (entries : List WrittenEntry) (others : List Statement)
    (before : List Char) :
    headerNames (linesAfter before (entries.map .entry ++ others)) =
      headerNames
        (linesAfter (before ++ endLines (entries.map WrittenEntry.text)) others) := by
  induction entries generalizing before with
  | nil => simp [endLines]
  | cons first entries induction =>
      have further := induction (before ++ first.text ++ ['\n'])
      simp only [List.map_cons, List.cons_append, linesAfter, Statement.text, Statement.read,
        headerNames, further]
      simp [endLines]

/-- Entries belong to the section that is open before them. -/
theorem entriesIn_linesAfter_entries {current : String} (entries : List WrittenEntry)
    (others : List Statement) (before : List Char) :
    entriesIn current (linesAfter before (entries.map .entry ++ others)) =
      entriesAfter current before entries ++
        entriesIn current
          (linesAfter (before ++ endLines (entries.map WrittenEntry.text)) others) := by
  induction entries generalizing before with
  | nil => simp [endLines, entriesAfter]
  | cons first entries induction =>
      have further := induction (before ++ first.text ++ ['\n'])
      simp only [List.map_cons, List.cons_append, linesAfter, Statement.text, Statement.read,
        entriesIn, further, entriesAfter, flatten_node]
      simp [endLines]

theorem headerNames_linesAfter_sections (sections : List WrittenSection) (before : List Char) :
    headerNames (linesAfter before (sections.flatMap WrittenSection.statements)) =
      sections.map WrittenSection.name := by
  induction sections generalizing before with
  | nil => rfl
  | cons first sections induction =>
      rw [List.flatMap_cons, WrittenSection.statements, List.cons_append, linesAfter,
        Statement.read, headerNames, headerNames_linesAfter_entries, induction, List.map_cons]

theorem entriesIn_linesAfter_sections {current : String} (sections : List WrittenSection)
    (before : List Char) :
    entriesIn current (linesAfter before (sections.flatMap WrittenSection.statements)) =
      sectionEntriesAfter before sections := by
  induction sections generalizing current before with
  | nil => rfl
  | cons first sections induction =>
      have position : before ++ first.header ++ ['\n'] ++
          endLines (first.entries.map WrittenEntry.text) = before ++ endLines first.lines := by
        simp [endLines, WrittenSection.lines]
      rw [List.flatMap_cons, WrittenSection.statements, List.cons_append, linesAfter,
        Statement.read, entriesIn, entriesIn_linesAfter_entries, induction, Statement.text,
        position, sectionEntriesAfter]

/-- Statements begin with a bracket or a double quote. -/
theorem Statement.head?_text_append {char : Char} (statement : Statement) (later : List Char)
    (notBracket : char ≠ '[') (notQuote : char ≠ '"') :
    (statement.text ++ later).head? ≠ some char := by
  cases statement with
  | header written => simp [Statement.text, WrittenSection.header, Ne.symm notBracket]
  | entry written =>
      rw [Statement.text, WrittenEntry.text, List.append_assoc]
      exact head?_target_append written.target notQuote

theorem WrittenDocument.dropMark_text (written : WrittenDocument) :
    dropMark written.text.toList = written.text.toList := by
  apply dropMark_of_unmarked
  rw [WrittenDocument.text, String.toList_ofList, ← WrittenDocument.map_text_statements]
  cases written.statements with
  | nil => cases written.closed <;> decide
  | cons first others =>
      obtain ⟨later, whole⟩ := intercalate_cons_append first.text (others.map Statement.text)
        (if written.closed then ['\n'] else [])
      rw [List.map_cons, whole]
      exact first.head?_text_append later (by decide) (by decide)

theorem WrittenDocument.headerNames_linesAfter (written : WrittenDocument) :
    headerNames (linesAfter [] written.statements) = written.sections.map WrittenSection.name := by
  rw [WrittenDocument.statements, headerNames_linesAfter_entries, headerNames_linesAfter_sections]

theorem WrittenDocument.toList_text (written : WrittenDocument) :
    written.text.toList =
      ['\n'].intercalate (written.statements.map Statement.text) ++
        if written.closed then ['\n'] else [] := by
  rw [WrittenDocument.map_text_statements, WrittenDocument.text, String.toList_ofList]

/-- The tables of a document are those of its statements. -/
theorem WrittenDocument.nesting_le_iff {written : WrittenDocument} {depth : Nat} :
    written.nesting ≤ depth ↔ ∀ statement ∈ written.statements, statement.nesting ≤ depth := by
  have greatest (numbers : List Nat) :
      numbers.foldr max 0 ≤ depth ↔ ∀ number ∈ numbers, number ≤ depth := by
    induction numbers with
    | nil => simp
    | cons number numbers induction =>
        rw [List.foldr_cons, Nat.max_le, induction, List.forall_mem_cons]
  simp only [nesting, greatest, entries, statements, WrittenSection.statements,
    List.forall_mem_map, List.forall_mem_append, List.forall_mem_flatMap, List.forall_mem_cons,
    Statement.nesting, Nat.zero_le, true_and]

section

variable [CallStack]

/-! ## Single lines -/

/-- An assignment that ends with its text is one line. -/
theorem reads_assignment {text : List Char} {key : String} {value : Node} {line last : Nat}
    (stops : Stops isFillerChar text) (written : text ≠ []) (opened : text.head? ≠ some '[')
    (read : readAssignment ⟨text, line⟩ = .ok ((key, value), ⟨[], last⟩)) :
    Reads readLine ⟨text, line⟩ [.assignment key value line] ⟨[], last⟩ := by
  have unmoved : (⟨text, line⟩ : Cursor).skipFiller = ⟨text, line⟩ :=
    Cursor.skipFiller_of_stops stops
  rw [← unmoved] at read
  have step := readLine_assignment (by simpa [unmoved] using written)
    (by simpa [unmoved] using opened) read
  rw [unmoved] at step
  exact .more step (.stop (readLine_end rfl))

theorem reads_entry {entry : WrittenEntry}
    (shallow : entry.value.node.nesting ≤ CallStack.tableDepth) (line : Nat) :
    Reads readLine ⟨entry.text, line⟩
      [.assignment (dotted entry.target.key.parts) entry.value.node line]
      ⟨[], line + entry.text.count '\n'⟩ := by
  have stops : Stops isInlineBlank entry.value.characters := by
    simpa using @stops_characters_append [] entry.value
  obtain ⟨middle, named, assigned, position⟩ := @readKey_target _ line entry.target stops
  have found := @readValueWithin_characters _ [] line _ entry.value shallow (by simp)
  rw [List.append_nil, ← position] at found
  have counted : entry.text.count '\n' = entry.value.characters.count '\n' := by
    simp [WrittenEntry.text, count_target]
  have read : readAssignment ⟨entry.text, line⟩ =
      .ok ((dotted entry.target.key.parts, entry.value.node),
        ⟨[], line + entry.value.characters.count '\n'⟩) :=
    readAssignment_eq_ok_iff.2 ⟨middle, _, named, assigned, found, rfl⟩
  rw [counted]
  exact reads_assignment (stops_target_append entry.target)
    (by simp [WrittenEntry.text, Target.text]) (head?_target_append entry.target (by decide)) read

theorem reads_header (written : WrittenSection) (line : Nat) :
    Reads readLine ⟨written.header, line⟩ [.header written.name line] ⟨[], line⟩ := by
  have inside : ∀ char ∈ written.name.toList, isHeaderChar char = true := by
    intro char member
    have notBracket : char ≠ ']' := fun same => written.unclosed (same ▸ member)
    have notFeed : char ≠ '\n' := fun same => written.oneLine (same ▸ member)
    simp [isHeaderChar, notBracket, notFeed]
  have read : readHeader ⟨written.header, line⟩ = .ok (written.name, ⟨[], line⟩) := by
    rw [readHeader_eq_ok_iff, WrittenSection.header, List.cons_append,
      advance_one_cons rfl]
    refine ⟨written.name.toList, [], rfl, inside, written.single, ?_, ?_, rfl⟩
    · rw [written.stripped]
      simpa using written.named
    · rw [written.stripped, String.ofList_toList]
  have unmoved : (⟨written.header, line⟩ : Cursor).skipFiller = ⟨written.header, line⟩ := by
    apply Cursor.skipFiller_of_stops
    rw [WrittenSection.header, List.cons_append]
    exact stops_cons rfl
  rw [← unmoved] at read
  have step := readLine_header (by rw [unmoved]; rfl) read
  rw [unmoved] at step
  exact .more step (.stop (readLine_end rfl))

/-- An entry with too many tables inside each other exhausts the stack. -/
theorem readLine_exhausted {entry : WrittenEntry}
    (deep : CallStack.tableDepth < entry.value.node.nesting) (later : List Char) (line : Nat) :
    ∃ last, readLine ⟨entry.text ++ later, line⟩ =
      .error ⟨.exhausted CallStack.message, last⟩ := by
  have stops : Stops isFillerChar (entry.text ++ later) := by
    rw [WrittenEntry.text, List.append_assoc]
    exact stops_target_append entry.target
  have opened : (entry.text ++ later).head? ≠ some '[' := by
    rw [WrittenEntry.text, List.append_assoc]
    exact head?_target_append entry.target (by decide)
  have goesOn : entry.text ++ later ≠ [] := by simp [WrittenEntry.text, Target.text]
  obtain ⟨middle, named, assigned, position⟩ := @readKey_target (entry.value.characters ++ later)
    line entry.target (stops_characters_append entry.value)
  obtain ⟨last, failed⟩ := @readValueWithin_exhausted _ later line _ entry.value deep
  have met : readValue (middle.skipInline.advance 1).skipInline =
      .error ⟨.exhausted CallStack.message, last⟩ := by
    rw [position]
    exact failed
  refine ⟨last, ?_⟩
  rw [readLine_eq, Cursor.skipFiller_of_stops stops, if_neg goesOn, if_neg opened, map_eq_error_iff,
    WrittenEntry.text, List.append_assoc, readAssignment_eq, named]
  simp only [Except.bind, if_pos assigned, met]

/-! ## Lines one after the other -/

theorem reads_statement {statement : Statement}
    (shallow : statement.nesting ≤ CallStack.tableDepth) (line : Nat) :
    Reads readLine ⟨statement.text, line⟩ [statement.read line]
      ⟨[], line + statement.text.count '\n'⟩ := by
  cases statement with
  | entry written => exact reads_entry shallow line
  | header written =>
      have counted : written.header.count '\n' = 0 := by
        simp [WrittenSection.header, List.count_eq_zero.2 written.oneLine]
      rw [Statement.text, counted]
      exact reads_header written line

theorem reads_statements {statements : List Statement}
    (shallow : ∀ statement ∈ statements, statement.nesting ≤ CallStack.tableDepth)
    (before : List Char) :
    ∃ final, Reads readLine
      ⟨['\n'].intercalate (statements.map Statement.text), 1 + before.count '\n'⟩
      (linesAfter before statements) final := by
  induction statements generalizing before with
  | nil => exact ⟨_, .stop (readLine_end rfl)⟩
  | cons first others induction =>
      rw [List.forall_mem_cons] at shallow
      have alone := reads_statement shallow.1 (1 + before.count '\n')
      obtain ⟨final, rest⟩ := induction shallow.2 (before ++ first.text ++ ['\n'])
      have counted : 1 + (before ++ first.text ++ ['\n']).count '\n' =
          1 + before.count '\n' + first.text.count '\n' + 1 := by
        simp only [List.count_append, List.count_singleton, beq_self_eq_true, if_true]
        omega
      rw [counted] at rest
      exact alone.intercalate_cons rest

/-- The first statement with too many tables inside each other exhausts the stack, and only headers
before it are read. -/
theorem exhausts_statements {statements : List Statement}
    (deep : ∃ statement ∈ statements, CallStack.tableDepth < statement.nesting)
    (before ending : List Char) :
    ∃ items last, many readLine ⟨['\n'].intercalate (statements.map Statement.text) ++ ending,
        1 + before.count '\n'⟩ = ⟨items, .error ⟨.exhausted CallStack.message, last⟩⟩ ∧
      (headerNames items).Sublist (headerNames (linesAfter before statements)) := by
  induction statements generalizing before with
  | nil => simp at deep
  | cons first others induction =>
      rw [List.map_cons]
      by_cases here : CallStack.tableDepth < first.nesting
      · obtain ⟨later, whole⟩ :=
          intercalate_cons_append first.text (others.map Statement.text) ending
        cases first with
        | header written => exact absurd here (Nat.not_lt_zero _)
        | entry written =>
            obtain ⟨last, failed⟩ := readLine_exhausted here later (1 + before.count '\n')
            refine ⟨[], last, ?_, List.nil_sublist _⟩
            rw [whole, Statement.text, many_eq progressive_readLine, failed]
      · have later : ∃ statement ∈ others, CallStack.tableDepth < statement.nesting := by
          simpa [here] using deep
        obtain ⟨items, last, failed, names⟩ := induction later (before ++ first.text ++ ['\n'])
        have alone := reads_statement (Nat.le_of_not_lt here) (1 + before.count '\n')
        have counted : 1 + (before ++ first.text ++ ['\n']).count '\n' =
            1 + before.count '\n' + first.text.count '\n' + 1 := by
          simp only [List.count_append, List.count_singleton, beq_self_eq_true, if_true]
          omega
        rw [counted] at failed
        refine ⟨first.read (1 + before.count '\n') :: items, last, ?_, ?_⟩
        · obtain ⟨second, rest, rfl⟩ :=
            List.exists_cons_of_ne_nil (List.ne_nil_of_mem later.choose_spec.1)
          rw [List.map_cons, List.intercalate_cons_cons, List.append_assoc, List.append_assoc,
            ← List.map_cons, List.singleton_append, alone.many_append_line, failed]
          rfl
        · rw [linesAfter]
          cases first with
          | header written => exact names.cons_cons _
          | entry written => exact names

/-! ## Whole documents -/

/-- A written document is read if the stack suffices for its tables. -/
theorem ofText_of_shallow {written : WrittenDocument}
    (shallow : written.nesting ≤ CallStack.tableDepth) :
    ofText written.text = .ok written.meaning := by
  obtain ⟨last, reads⟩ := reads_statements (WrittenDocument.nesting_le_iff.1 shallow) []
  obtain ⟨final, whole⟩ := reads.append_feed written.closed
  have whole : Reads readLine (Cursor.start written.text.toList)
      (linesAfter [] written.statements) final := by
    rw [WrittenDocument.toList_text]
    exact whole
  rw [← WrittenDocument.dropMark_text] at whole
  have entries : entriesIn "" (linesAfter [] written.statements) = written.meaning.entries := by
    rw [WrittenDocument.statements, entriesIn_linesAfter_entries, entriesIn_linesAfter_sections]
    rfl
  refine ofText_eq_ok_iff.2 ⟨_, final, whole, ?_, ?_⟩
  · rw [written.headerNames_linesAfter]
    exact written.distinct
  · rw [written.headerNames_linesAfter, entries]
    rfl

/-- A written document exhausts a stack that does not suffice for its tables. -/
theorem ofText_of_deep {written : WrittenDocument}
    (deep : CallStack.tableDepth < written.nesting) :
    ∃ line, ofText written.text = .error ⟨.exhausted CallStack.message, line⟩ := by
  have somewhere : ∃ statement ∈ written.statements,
      CallStack.tableDepth < statement.nesting := by
    simpa [WrittenDocument.nesting_le_iff] using Nat.not_le_of_lt deep
  obtain ⟨items, last, failed, names⟩ :=
    exhausts_statements somewhere [] (if written.closed then ['\n'] else [])
  rw [← WrittenDocument.toList_text, ← WrittenDocument.dropMark_text] at failed
  have read : readLines (dropMark written.text.toList) =
      ⟨items, .error ⟨.exhausted CallStack.message, last⟩⟩ := failed
  rw [written.headerNames_linesAfter] at names
  have fresh : repeatedHeader? [] items = none :=
    repeatedHeader?_eq_none_iff.2 ⟨names.nodup written.distinct, by simp⟩
  exact ⟨last, by simp only [ofText, read, fresh]⟩

/-- Reading a written document gives the document that is meant, unless its tables are nested too
deeply for the call stack. -/
theorem ofText_text (written : WrittenDocument) :
    if written.nesting ≤ CallStack.tableDepth then ofText written.text = .ok written.meaning
    else ∃ line, ofText written.text = .error ⟨.exhausted CallStack.message, line⟩ := by
  split
  · next shallow => exact ofText_of_shallow shallow
  · next deep => exact ofText_of_deep (Nat.lt_of_not_le deep)

end

/-! ## Tables inside each other -/

/-- A text in so many tables. -/
def nestedValue : Nat → WrittenValue
  | 0 => .text "1"
  | depth + 1 => .table (.last [] ⟨⟨"a", []⟩, [], []⟩ (nestedValue depth) [])

/-- A document of one entry, which has so many tables inside each other. -/
def nestedDocument (depth : Nat) : WrittenDocument where
  root := [⟨⟨⟨"k", []⟩, [], []⟩, nestedValue depth⟩]
  sections := []
  distinct := List.nodup_nil
  closed := false

theorem nesting_nestedValue (depth : Nat) : (nestedValue depth).node.nesting = depth := by
  induction depth with
  | zero => rfl
  | succ depth induction =>
      rw [nestedValue, WrittenValue.node, WrittenFields.nodes, Node.nesting, Node.nestingIn,
        induction, Node.nestingIn, Nat.max_zero]

@[simp]
theorem nesting_nestedDocument (depth : Nat) : (nestedDocument depth).nesting = depth :=
  (Nat.max_zero _).trans (nesting_nestedValue depth)

open scoped CallStack

example : (nestedDocument 2).text = "\"k\"=\x7b\"a\"=\x7b\"a\"=\"1\"\x7d\x7d" ∧
    (nestedDocument 2).meaning = ⟨[], [⟨"", "k", .table [("a.a", .text "1")], 1⟩]⟩ := by
  decide

/-- A thousand tables inside each other are too many. -/
theorem ofText_nestedDocument_thousand :
    (∃ line, ofText (nestedDocument 1000).text =
        .error ⟨.exhausted CallStack.message, line⟩) ∧
      ofText (nestedDocument 1000).text ≠ .ok (nestedDocument 1000).meaning := by
  have deep : CallStack.tableDepth < (nestedDocument 1000).nesting := by
    rw [nesting_nestedDocument]
    decide
  obtain ⟨line, failed⟩ := ofText_of_deep deep
  exact ⟨⟨line, failed⟩, by simp [failed]⟩

-- a key of two parts, a comment in an array, an escaped quote and a trailing comma
example : ofText "[bundles]\n\"build\". \"tools\"\t=[#x\n\"a\\\"\",]" =
    .ok ⟨["bundles"], [⟨"bundles", "build.tools", .array ["a\""], 2⟩]⟩ := by
  rfl

end VersionCatalog.Document
