import Mathlib.Data.List.Basic
import VersionCatalog.Proofs.Document.Join

/-!
# The structure of documents

Whatever can be read is well formed. Its sections can stand in headers and differ from each other.
Its entries come section by section, one below the other, and each of them stands in the text where
its line says. Its values hold no table inside a table, however deep tables are nested in the text.
-/

namespace VersionCatalog.Document

open Text

/-! ## Values without nested tables -/

mutual

/-- The texts and arrays in a value, each with the names of the fields that lead to it. -/
def Node.leaves : Node → List (List String × Leaf)
  | .text content => [([], .text content)]
  | .array items => [([], .array items)]
  | .table fields => leavesIn fields

/-- The texts and arrays in the fields of a table. -/
def Node.leavesIn : List (String × Node) → List (List String × Leaf)
  | [] => []
  | (name, node) :: fields =>
      (node.leaves.map fun (path, leaf) => (name :: path, leaf)) ++ leavesIn fields

end

/-- A written value stands for a text, for an array of texts, or for a table of these. The fields of
the table are named by all names on the way. -/
inductive Node.StandsFor : Node → Value → Prop where
  | text (content : String) : StandsFor (.text content) (.text content)
  | array (items : List String) : StandsFor (.array items) (.array items)
  | table (fields : List (String × Node)) :
      StandsFor (.table fields)
        (.table ((Node.leavesIn fields).map fun (path, leaf) => (".".intercalate path, leaf)))

/-- Fields have names. -/
theorem Node.path_ne_nil {fields : List (String × Node)} {path : List String} {leaf : Leaf}
    (member : (path, leaf) ∈ Node.leavesIn fields) : path ≠ [] := by
  induction fields with
  | nil => simp [leavesIn] at member
  | cons field fields induction =>
      obtain ⟨name, node⟩ := field
      rcases List.mem_append.1 member with first | later
      · obtain ⟨_, _, same⟩ := List.mem_map.1 first
        cases same
        simp
      · exact induction later

theorem intercalate_cons {name : String} {path : List String} (written : path ≠ []) :
    ".".intercalate (name :: path) = name ++ "." ++ ".".intercalate path := by
  have apart : ".".intercalate ([name] ++ path) =
      ".".intercalate [name] ++ "." ++ ".".intercalate path :=
    String.intercalate_append_of_ne_nil (List.cons_ne_nil name []) written
  rwa [List.singleton_append, String.intercalate_singleton] at apart

mutual

theorem flattenField_eq (name : String) (node : Node) :
    node.flattenField name =
      node.leaves.map fun (path, leaf) => (".".intercalate (name :: path), leaf) := by
  match node with
  | .text content => simp [Node.flattenField, Node.leaves]
  | .array items => simp [Node.flattenField, Node.leaves]
  | .table fields =>
      rw [Node.flattenField, Node.leaves, flattenFields_eq fields, List.map_map]
      apply List.map_congr_left
      rintro ⟨path, leaf⟩ member
      simp only [Function.comp_apply, intercalate_cons (Node.path_ne_nil member)]

/-- Flattening the fields of a table lists its leaves. -/
theorem flattenFields_eq (fields : List (String × Node)) :
    Node.flattenFields fields =
      (Node.leavesIn fields).map fun (path, leaf) => (".".intercalate path, leaf) := by
  match fields with
  | [] => rfl
  | (name, node) :: fields =>
      rw [Node.flattenFields, Node.leavesIn, List.map_append, flattenField_eq name node,
        flattenFields_eq fields, List.map_map]
      rfl

end

theorem standsFor_flatten (node : Node) : node.StandsFor node.flatten := by
  cases node with
  | text content => exact .text content
  | array items => exact .array items
  | table fields =>
      rw [Node.flatten, flattenFields_eq]
      exact .table fields

/-! ## Lines one below the other -/

/-- The line that a header or an assignment begins on. -/
def Line.number : Line → Nat
  | .header _ line => line
  | .assignment _ _ line => line

theorem Cursor.Passes.line_le {before after : Cursor} (passes : before.Passes after) :
    before.line ≤ after.line := by
  obtain ⟨passed, _, counted⟩ := passes
  omega

/-- The next line is reached unless the text ends. -/
theorem Cursor.lt_line_of_finishLine {cursor after : Cursor} {content : LineContent}
    (finished : cursor.finishLine content = .ok after) :
    after.rest = [] ∨ cursor.line < after.line := by
  have below := (passes_lineEnd cursor).line_le
  simp only [finishLine] at finished
  split at finished
  · next ended =>
      cases finished
      exact .inl ended
  · cases finished
    exact .inr (Nat.lt_succ_of_le below)
  · cases finished

theorem lines_sublist (current : String) (lines : List Line) :
    ((entriesIn current lines).map Entry.line).Sublist (lines.map Line.number) := by
  induction lines generalizing current with
  | nil => exact .slnil
  | cons line lines induction =>
      cases line with
      | header name line => exact (induction name).cons line
      | assignment key value line => exact (induction current).cons_cons line

/-! ## Sections one after the other -/

theorem sectionName_mem {current : String} {lines : List Line} {entry : Entry}
    (member : entry ∈ entriesIn current lines) :
    entry.sectionName ∈ current :: headerNames lines := by
  induction lines generalizing current with
  | nil => simp [entriesIn] at member
  | cons line lines induction =>
      cases line with
      | header name line => exact List.mem_cons_of_mem _ (induction member)
      | assignment key value line =>
          rcases List.mem_cons.1 member with rfl | later
          · exact List.mem_cons_self
          · exact induction later

/-- The entries of the sections, section by section. -/
def inRuns (names : List String) (entries : List Entry) : List Entry :=
  names.flatMap fun name => entries.filter fun entry => entry.sectionName = name

theorem inRuns_cons_of_notMem {names : List String} {entry : Entry}
    (other : entry.sectionName ∉ names) (entries : List Entry) :
    inRuns names (entry :: entries) = inRuns names entries := by
  refine List.flatMap_congr fun name member => List.filter_cons_of_neg ?_
  intro same
  exact other (of_decide_eq_true same ▸ member)

/-- Entries come section by section when no section is declared twice. -/
theorem entriesIn_inRuns {current : String} {lines : List Line}
    (distinct : (current :: headerNames lines).Nodup) :
    inRuns (current :: headerNames lines) (entriesIn current lines) = entriesIn current lines := by
  induction lines generalizing current with
  | nil => rfl
  | cons line lines induction =>
      cases line with
      | header name line =>
          simp only [headerNames, entriesIn] at distinct ⊢
          obtain ⟨fresh, others⟩ := List.nodup_cons.1 distinct
          -- The section before the header has no entries below it.
          have nothing : (entriesIn name lines).filter
              (fun entry => entry.sectionName = current) = [] := by
            refine List.filter_eq_nil_iff.2 fun entry member same => fresh ?_
            rw [← of_decide_eq_true same]
            exact sectionName_mem member
          have later := induction others
          rw [inRuns] at later ⊢
          rw [List.flatMap_cons, nothing, later, List.nil_append]
      | assignment key value line =>
          simp only [headerNames, entriesIn] at distinct ⊢
          have fresh := (List.nodup_cons.1 distinct).1
          have later := induction distinct
          rw [inRuns, List.flatMap_cons] at later ⊢
          rw [← inRuns] at later ⊢
          rw [List.filter_cons_of_pos (by simp), inRuns_cons_of_notMem fresh, List.cons_append,
            later]

/-! ## Well-formed documents -/

/-- An entry is made by an assignment. -/
theorem exists_of_mem_entriesIn {current : String} {lines : List Line} {entry : Entry}
    (member : entry ∈ entriesIn current lines) :
    ∃ node, .assignment entry.key node entry.line ∈ lines ∧ entry.value = node.flatten := by
  induction lines generalizing current with
  | nil => simp [entriesIn] at member
  | cons line lines induction =>
      cases line with
      | header name line =>
          obtain ⟨node, later, same⟩ := induction member
          exact ⟨node, List.mem_cons_of_mem _ later, same⟩
      | assignment key value line =>
          rcases List.mem_cons.1 member with rfl | others
          · exact ⟨value, List.mem_cons_self, rfl⟩
          · obtain ⟨node, later, same⟩ := induction others
            exact ⟨node, List.mem_cons_of_mem _ later, same⟩

/-- A mark before a text holds no line feed. -/
theorem exists_dropMark_append (text : List Char) :
    ∃ mark, text = mark ++ dropMark text ∧ mark.count '\n' = 0 := by
  unfold dropMark
  split
  · next rest => exact ⟨['\ufeff'], rfl, by decide⟩
  · exact ⟨[], rfl, rfl⟩

/-- A name that can stand in a header. -/
structure IsSectionName (name : String) : Prop where
  written : name ≠ ""
  stripped : strip name.toList = name.toList
  unclosed : ']' ∉ name.toList
  oneLine : '\n' ∉ name.toList

section Text

variable [CallStack]

/-- An entry stands in a text: its key and its value are read there, and its line is counted by the
line feeds before the key. -/
structure EntryAt (text : String) (entry : Entry) (node : Node) : Prop where
  /-- The entry is one of the lines that are read. -/
  read : .assignment entry.key node entry.line ∈ (readLines (dropMark text.toList)).items
  /-- The assignment stands there in the text. -/
  placed : ∃ before rest after, text.toList = before ++ rest ∧
    entry.line = 1 + before.count '\n' ∧
    readAssignment ⟨rest, entry.line⟩ = .ok ((entry.key, node), after)

/-- A document as it can be read from a text. -/
structure IsWellFormed (text : String) (document : Document) : Prop where
  distinct : document.sections.Nodup
  named : ∀ name ∈ document.sections, IsSectionName name
  /-- Entries have no section or one that is declared. -/
  declared : ∀ entry ∈ document.entries,
    entry.sectionName = "" ∨ entry.sectionName ∈ document.sections
  /-- The entries without a section come first. -/
  inRuns : inRuns ("" :: document.sections) document.entries = document.entries
  /-- No two entries begin on one line. -/
  increasing : (document.entries.map Entry.line).Pairwise (· < ·)
  placed : ∀ entry ∈ document.entries, ∃ node, EntryAt text entry node ∧ node.StandsFor entry.value

/-- A header or an assignment begins on a line at or below the position that it is read from, and
the position after it is on a further line unless the text ends. -/
theorem readLine_number {cursor after : Cursor} {line : Line}
    (read : readLine cursor = .ok (.more line, after)) :
    cursor.line ≤ line.number ∧ (after.rest = [] ∨ line.number < after.line) := by
  have filler := (Cursor.passes_skipFiller cursor).line_le
  rcases readLine_eq_more read with ⟨name, _, rfl, found⟩ | ⟨key, value, _, _, rfl, found⟩
  · obtain ⟨span, rest, _, _, _, _, _, finished⟩ := readHeader_eq_ok_iff.1 found
    have opened := (Cursor.passes_advance cursor.skipFiller 1).line_le
    exact ⟨filler, (Cursor.lt_line_of_finishLine finished).imp_right (Nat.lt_of_le_of_lt opened)⟩
  · obtain ⟨middle, stopped, named, assigned, found, finished⟩ := readAssignment_eq_ok_iff.1 found
    have passes : cursor.skipFiller.Passes stopped :=
      (readKey_passesSome named).1.trans
        ((Cursor.passes_separator middle).trans (readValue_passesSome found).1)
    exact ⟨filler,
      (Cursor.lt_line_of_finishLine finished).imp_right (Nat.lt_of_le_of_lt passes.line_le)⟩

/-- The lines of a text are below the position that they are read from. -/
theorem Reads.le_number {cursor after : Cursor} {lines : List Line}
    (reads : Reads readLine cursor lines after) : ∀ line ∈ lines, cursor.line ≤ line.number := by
  intro line member
  obtain ⟨reached, stopped, passes, read⟩ := reads.exists_readLine member
  exact Nat.le_trans passes.line_le (readLine_number read).1

/-- Every line of a text is below those before it. -/
theorem Reads.pairwise_number {cursor after : Cursor} {lines : List Line}
    (reads : Reads readLine cursor lines after) : (lines.map Line.number).Pairwise (· < ·) := by
  induction reads with
  | stop => exact .nil
  | last read => exact (readLine_ne_last read).elim
  | @more cursor middle after line lines read others induction =>
      refine .cons ?_ induction
      -- Unless the text ends with it, the line is ended by a line feed before all others.
      rcases (readLine_number read).2 with ended | below
      · rw [others.eq_nil_of_blank (by simp [ended])]
        simp
      · intro number member
        obtain ⟨other, later, rfl⟩ := List.mem_map.1 member
        exact Nat.lt_of_lt_of_le below (others.le_number other later)

theorem Reads.isSectionName {cursor after : Cursor} {lines : List Line} {name : String}
    (reads : Reads readLine cursor lines after) (member : name ∈ headerNames lines) :
    IsSectionName name := by
  obtain ⟨line, member⟩ := exists_of_mem_headerNames member
  obtain ⟨opened, stopped, _, _, _, found⟩ := reads.exists_readHeader member
  obtain ⟨span, _, _, inside, _, written, rfl, _⟩ := readHeader_eq_ok_iff.1 found
  have within : ∀ char, char ∈ strip span → isHeaderChar char = true := fun char member =>
    inside char ((strip_sublist span).subset member)
  refine ⟨by simpa using written, ?_, ?_, ?_⟩
  · rw [String.toList_ofList, strip_strip]
  · rw [String.toList_ofList]
    exact fun member => absurd (within _ member) (by decide)
  · rw [String.toList_ofList]
    exact fun member => absurd (within _ member) (by decide)

/-- An assignment among the lines stands somewhere in the text. -/
theorem Reads.exists_readAssignment {cursor after : Cursor} {lines : List Line} {key : String}
    {value : Node} {line : Nat} (reads : Reads readLine cursor lines after)
    (member : .assignment key value line ∈ lines) :
    ∃ opened stopped, cursor.Passes opened ∧ opened.line = line ∧
      readAssignment opened = .ok ((key, value), stopped) := by
  obtain ⟨reached, stopped, passes, read⟩ := reads.exists_readLine member
  rcases readLine_eq_more read with ⟨_, _, same, _⟩ | ⟨_, _, _, _, same, found⟩
  · cases same
  · cases same
    exact ⟨_, stopped, passes.trans (Cursor.passes_skipFiller reached), rfl, found⟩

/-- The entries of a text stand where their lines say. -/
theorem Reads.entryAt {text : String} {lines : List Line} {after : Cursor} {entry : Entry}
    (reads : Reads readLine (Cursor.start (dropMark text.toList)) lines after)
    (member : entry ∈ entriesIn "" lines) :
    ∃ node, EntryAt text entry node ∧ node.StandsFor entry.value := by
  obtain ⟨node, member, same⟩ := exists_of_mem_entriesIn member
  obtain ⟨opened, stopped, ⟨passed, whole, counted⟩, line, read⟩ :=
    reads.exists_readAssignment member
  obtain ⟨mark, marked, unbroken⟩ := exists_dropMark_append text.toList
  refine ⟨node, ⟨?_, mark ++ passed, opened.rest, stopped, ?_, ?_, ?_⟩, ?_⟩
  · rw [(reads_start_iff.1 reads).1]
    exact member
  · rw [List.append_assoc, ← whole]
    exact marked
  · rw [List.count_append, unbroken, Nat.zero_add, ← line]
    exact counted
  · rw [← line]
    exact read
  · rw [same]
    exact standsFor_flatten node

/-- Whatever can be read is a well-formed document. -/
theorem isWellFormed_of_ofText {text : String} {document : Document}
    (read : ofText text = .ok document) : IsWellFormed text document := by
  obtain ⟨lines, after, reads, distinct, rfl⟩ := ofText_eq_ok_iff.1 read
  have fresh : ("" :: headerNames lines).Nodup :=
    List.nodup_cons.2 ⟨fun member => reads.headerNames_ne "" member rfl, distinct⟩
  exact {
    distinct := distinct
    named := fun name member => reads.isSectionName member
    declared := fun entry member => List.mem_cons.1 (sectionName_mem member)
    inRuns := entriesIn_inRuns fresh
    increasing := reads.pairwise_number.sublist (lines_sublist "" lines)
    placed := fun entry member => reads.entryAt member }

end Text

open scoped CallStack

/-- A table in a table becomes one table. -/
theorem isWellFormed_nested_tables :
    IsWellFormed "r = 1\n[a]\nx = \x7by = \x7bz = [\"1\"]\x7d\x7d"
      ⟨["a"], [⟨"", "r", .text "1", 1⟩, ⟨"a", "x", .table [("y.z", .array ["1"])], 3⟩]⟩ := by
  apply isWellFormed_of_ofText
  decide +kernel

end VersionCatalog.Document
