import VersionCatalog.Proofs.Document.EmbeddedValues

/-!
# Joined documents

Two texts that are documents make one document when they are joined by a line break, unless they
declare a section in common. `ofText_join` says which document that is, and otherwise which header
is reported.
-/

namespace VersionCatalog.Document

open Text

/-- An entry of a text that comes after another one with these sections and so many lines. Without a
section of its own it belongs to the last of them. -/
def moveEntry (sections : List String) (lines : Nat) (entry : Entry) : Entry :=
  { entry with
    sectionName := if entry.sectionName = "" then sections.getLast?.getD "" else entry.sectionName
    line := entry.line + lines }

/-- A document followed by another one, which comes after so many lines. -/
def join (front back : Document) (lines : Nat) : Document :=
  ⟨front.sections ++ back.sections,
    front.entries ++ back.entries.map (moveEntry front.sections lines)⟩

/-- A text has the header of a section on a line: it is among the lines of the text, and its bracket
stands after as many line feeds. -/
structure HeaderAt [CallStack] (text : String) (name : String) (line : Nat) : Prop where
  /-- The header is one of the lines that are read. -/
  read : .header name line ∈ (readLines (dropMark text.toList)).items
  /-- The header stands there in the text. -/
  placed : ∃ before rest after, dropMark text.toList = before ++ '[' :: rest ∧
    line = 1 + before.count '\n' ∧ readHeader ⟨'[' :: rest, line⟩ = .ok (name, after)

/-! ## Lines one after the other -/

variable {current : String} {lines : List Line}

theorem exists_of_mem_headerNames {name : String} (member : name ∈ headerNames lines) :
    ∃ line, .header name line ∈ lines := by
  induction lines with
  | nil => simp [headerNames] at member
  | cons first lines induction =>
      cases first with
      | assignment key value line =>
          obtain ⟨header, member⟩ := induction member
          exact ⟨header, List.mem_cons_of_mem _ member⟩
      | header other line =>
          rcases List.mem_cons.1 member with rfl | later
          · exact ⟨line, List.mem_cons_self⟩
          · obtain ⟨header, member⟩ := induction later
            exact ⟨header, List.mem_cons_of_mem _ member⟩

/-- The entries after a header belong to its section. -/
theorem entriesIn_append (front back : List Line) :
    entriesIn current (front ++ back) =
      entriesIn current front ++ entriesIn ((headerNames front).getLast?.getD current) back := by
  induction front generalizing current with
  | nil => rfl
  | cons line front induction =>
      cases line with
      | assignment key value line =>
          simp only [List.cons_append, entriesIn, headerNames, induction]
      | header name line =>
          simp only [List.cons_append, entriesIn, headerNames, induction]
          rw [List.getLast?_cons]
          rfl

/-- Where a text comes after others, its first entries belong to the section that is open there. -/
theorem entriesIn_map_moved {sections : List String} {base : String} (count : Nat)
    (named : ∀ name ∈ headerNames lines, name ≠ "") :
    entriesIn (if base = "" then sections.getLast?.getD "" else base)
        (lines.map (Line.moved count)) =
      (entriesIn base lines).map (moveEntry sections count) := by
  induction lines generalizing base with
  | nil => rfl
  | cons line lines induction =>
      cases line with
      | assignment key value line =>
          have others := @induction base named
          simp only [List.map_cons, Line.moved, entriesIn, others]
          rfl
      | header name line =>
          simp only [headerNames, List.mem_cons, forall_eq_or_imp] at named
          have others := @induction name named.2
          rw [if_neg named.1] at others
          simpa only [List.map_cons, Line.moved, entriesIn] using others

/-- The first header whose name was declared before is reported. -/
theorem repeatedHeader?_append {declared : List String} {before after : List Line} {name : String}
    {line : Nat} (fresh : repeatedHeader? declared before = none)
    (again : name ∈ declared ∨ name ∈ headerNames before) :
    repeatedHeader? declared (before ++ .header name line :: after) =
      some ⟨.repeatedSection name, line⟩ := by
  induction before generalizing declared with
  | nil =>
      have member : name ∈ declared := by simpa [headerNames] using again
      simp [repeatedHeader?, member]
  | cons first before induction =>
      cases first with
      | assignment key value line =>
          simp only [repeatedHeader?, List.cons_append] at fresh ⊢
          exact induction fresh again
      | header other line =>
          simp only [repeatedHeader?, List.cons_append] at fresh ⊢
          split at fresh
          · cases fresh
          · next undeclared =>
              rw [if_neg undeclared]
              apply induction fresh
              simp only [headerNames, List.mem_cons] at again ⊢
              rcases again with known | same | earlier
              · exact .inl (.inr known)
              · exact .inl (.inl same)
              · exact .inr earlier

/-- A name that is found among the headers comes from the first header with such a name. -/
theorem exists_header_of_find? {wanted : String → Bool} {name : String}
    (found : (headerNames lines).find? wanted = some name) :
    ∃ before line after, lines = before ++ .header name line :: after ∧
      ∀ earlier ∈ headerNames before, wanted earlier = false := by
  induction lines with
  | nil => simp [headerNames] at found
  | cons first lines induction =>
      cases first with
      | assignment key value line =>
          obtain ⟨before, header, after, rfl, earlier⟩ := induction found
          exact ⟨.assignment key value line :: before, header, after, rfl, earlier⟩
      | header other line =>
          simp only [headerNames, List.find?_cons] at found
          split at found
          · cases found
            exact ⟨[], line, lines, rfl, by simp [headerNames]⟩
          · next unwanted =>
              obtain ⟨before, header, after, rfl, earlier⟩ := induction found
              refine ⟨.header other line :: before, header, after, rfl, ?_⟩
              simp only [headerNames, List.mem_cons, forall_eq_or_imp]
              exact ⟨unwanted, earlier⟩

/-! ## Marks before texts -/

theorem dropMark_append (text later : List Char) :
    dropMark (text ++ '\n' :: later) = dropMark text ++ '\n' :: later := by
  cases text with
  | nil => rfl
  | cons char text =>
      by_cases mark : char = '\ufeff'
      · simp [dropMark, mark]
      · simp [dropMark, mark]

theorem count_dropMark (text : List Char) : (dropMark text).count '\n' = text.count '\n' := by
  cases text with
  | nil => rfl
  | cons char text =>
      by_cases mark : char = '\ufeff'
      · simp [dropMark, mark]
      · simp [dropMark, mark]

theorem dropMark_of_breaksLine {text : List Char} (breaks : BreaksLine text) :
    dropMark text = text :=
  dropMark_of_unmarked (breaks.head?_ne (by decide))

theorem dropMark_append_of_breaksLine {later : List Char} (breaks : BreaksLine later)
    (text : List Char) : dropMark (text ++ later) = dropMark text ++ later := by
  cases later with
  | nil => rw [List.append_nil, List.append_nil]
  | cons char later =>
      rw [breaks char rfl]
      exact dropMark_append text later

/-! ## Runs over a whole text -/

section Runs

variable [CallStack]

/-- A header among the lines stands somewhere in the text. -/
theorem Reads.exists_readHeader {cursor after : Cursor} {name : String} {line : Nat}
    (reads : Reads readLine cursor lines after) (member : .header name line ∈ lines) :
    ∃ opened stopped, cursor.Passes opened ∧ opened.rest.head? = some '[' ∧ opened.line = line ∧
      readHeader opened = .ok (name, stopped) := by
  obtain ⟨reached, stopped, passes, read⟩ := reads.exists_readLine member
  rcases readLine_eq_more read with ⟨name, opened, same, found⟩ | ⟨_, _, _, _, same, _⟩
  · cases same
    exact ⟨_, _, passes.trans (Cursor.passes_skipFiller reached), opened, rfl, found⟩
  · cases same

/-- Headers have names. -/
theorem Reads.headerNames_ne {cursor after : Cursor} (reads : Reads readLine cursor lines after) :
    ∀ name ∈ headerNames lines, name ≠ "" := by
  intro name member
  obtain ⟨line, member⟩ := exists_of_mem_headerNames member
  obtain ⟨opened, stopped, _, _, _, found⟩ := reads.exists_readHeader member
  obtain ⟨span, _, _, _, _, written, rfl, _⟩ := readHeader_eq_ok_iff.1 found
  simpa using written

/-- The lines of a text do not change when it comes after further lines. -/
theorem Reads.moved {cursor after : Cursor} (count : Nat)
    (reads : Reads readLine cursor lines after) :
    ∃ final, Reads readLine (cursor.embed [] count) (lines.map (Line.moved count)) final := by
  have breaks : BreaksLine [] := by
    intro char opens
    contradiction
  have ended : (after.embed [] count).rest = [] := by
    rw [Cursor.embed_rest, reads.rest_eq_nil, List.append_nil]
  have stops : (after.embed [] count).skipFiller.rest = [] := by
    rw [Cursor.skipFiller_of_stops (by rw [ended]; exact stops_nil), ended]
  have whole := reads.append breaks (.stop (readLine_end stops))
  rw [List.append_nil] at whole
  exact ⟨_, whole⟩

/-- Reading all lines of a text ends below all its line feeds. -/
theorem Reads.line_eq {text : List Char} {after : Cursor}
    (reads : Reads readLine (Cursor.start (dropMark text)) lines after) :
    after.line = 1 + text.count '\n' := by
  rw [(reads.passes progressive_readLine).line_eq reads.rest_eq_nil]
  exact congrArg (1 + ·) (count_dropMark text)

/-- The lines of joined texts are those of the first and, further down, those of the second. -/
theorem reads_join {first second : String} {front back : List Line} {after last : Cursor}
    (frontReads : Reads readLine (Cursor.start (dropMark first.toList)) front after)
    (backReads : Reads readLine (Cursor.start second.toList) back last) :
    ∃ final, Reads readLine (Cursor.start (dropMark (first ++ "\n" ++ second).toList))
      (front ++ back.map (Line.moved (1 + first.toList.count '\n'))) final := by
  have line := frontReads.line_eq
  obtain ⟨final, backMoved⟩ := backReads.moved (1 + first.toList.count '\n')
  have position : (Cursor.start second.toList).embed [] (1 + first.toList.count '\n') =
      ⟨second.toList, after.line + 1⟩ := by
    rw [line, Nat.add_comm _ 1]
    simp [Cursor.embed, Cursor.start]
  rw [position] at backMoved
  have text : (first ++ "\n" ++ second).toList = first.toList ++ '\n' :: second.toList := by
    simp
  refine ⟨final, ?_⟩
  rw [text, dropMark_append]
  exact frontReads.append_line backMoved

/-- A header among the lines of a text is one that the text has. -/
theorem headerAt_of_reads {text : String} {name : String} {line : Nat} {after : Cursor}
    (reads : Reads readLine (Cursor.start (dropMark text.toList)) lines after)
    (member : .header name line ∈ lines) : HeaderAt text name line := by
  obtain ⟨opened, stopped, ⟨passed, whole, counted⟩, bracket, rfl, read⟩ :=
    reads.exists_readHeader member
  obtain ⟨rest, bracket⟩ := List.head?_eq_some_iff.1 bracket
  refine ⟨?_, passed, rest, stopped, ?_, counted, ?_⟩
  · rw [(reads_start_iff.1 reads).1]
    exact member
  · rw [← bracket]
    exact whole
  · rw [← bracket]
    exact read

/-- A text whose lines declare a section again is no document. -/
theorem ofText_of_repeated {text : String} {before after : List Line} {name : String} {line : Nat}
    {final : Cursor}
    (reads : Reads readLine (Cursor.start (dropMark text.toList))
      (before ++ .header name line :: after) final)
    (distinct : (headerNames before).Nodup) (again : name ∈ headerNames before) :
    ofText text = .error ⟨.repeatedSection name, line⟩ := by
  have fresh : repeatedHeader? [] before = none :=
    repeatedHeader?_eq_none_iff.2 ⟨distinct, by simp⟩
  simp only [ofText, (reads_start_iff.1 reads).1, repeatedHeader?_append fresh (.inr again)]

/-- Where the lines of one document are read before those of another, and no section is declared
again, the text is the first document followed by the second. -/
theorem ofText_of_reads_moved {text : String} {frontLines backLines : List Line} {count : Nat}
    {front back : Document} {final : Cursor}
    (reads : Reads readLine (Cursor.start (dropMark text.toList))
      (frontLines ++ backLines.map (Line.moved count)) final)
    (frontDistinct : (headerNames frontLines).Nodup) (backDistinct : (headerNames backLines).Nodup)
    (frontRead : front = ⟨headerNames frontLines, entriesIn "" frontLines⟩)
    (backRead : back = ⟨headerNames backLines, entriesIn "" backLines⟩)
    (named : ∀ name ∈ headerNames backLines, name ≠ "")
    (apart : ∀ name ∈ back.sections, name ∉ front.sections) :
    ofText text = .ok (front.join back count) := by
  subst frontRead backRead
  have distinct : (headerNames frontLines ++ headerNames backLines).Nodup := by
    refine List.nodup_append.2 ⟨frontDistinct, backDistinct, ?_⟩
    rintro name member other also rfl
    exact apart name also member
  have entries := @entriesIn_map_moved backLines (headerNames frontLines) "" count named
  rw [if_pos rfl] at entries
  refine ofText_eq_ok_iff.2 ⟨_, final, reads, ?_, ?_⟩
  · rw [headerNames_append, headerNames_map_moved]
    exact distinct
  · rw [headerNames_append, headerNames_map_moved, entriesIn_append, entries]
    rfl

/-- A document goes on with another one that begins with a line break, unless a section is declared
again. -/
theorem ofText_append {first second : String} {front back : Document}
    (frontRead : ofText first = .ok front) (backRead : ofText second = .ok back)
    (breaks : BreaksLine second.toList) (apart : ∀ name ∈ back.sections, name ∉ front.sections) :
    ofText (first ++ second) = .ok (front.join back (first.toList.count '\n')) := by
  obtain ⟨frontLines, after, frontReads, frontDistinct, frontSame⟩ := ofText_eq_ok_iff.1 frontRead
  obtain ⟨backLines, last, backReads, backDistinct, backSame⟩ := ofText_eq_ok_iff.1 backRead
  rw [dropMark_of_breaksLine breaks] at backReads
  have counted := frontReads.line_eq
  obtain ⟨final, moved⟩ := backReads.moved (first.toList.count '\n')
  have position : (Cursor.start second.toList).embed [] (first.toList.count '\n') =
      after.embed second.toList 0 := by
    simp [Cursor.embed, Cursor.start, frontReads.rest_eq_nil, counted]
  rw [position] at moved
  have reads := frontReads.append breaks moved
  have start : (Cursor.start (dropMark first.toList)).embed second.toList 0 =
      Cursor.start (dropMark (first ++ second).toList) := by
    rw [String.toList_append, dropMark_append_of_breaksLine breaks]
    rfl
  rw [map_moved_zero, start] at reads
  exact ofText_of_reads_moved reads frontDistinct backDistinct frontSame backSame
    backReads.headerNames_ne apart

/-- Joining two documents by a line break gives the sections and the entries of the first, and then
those of the second with their lines counted on, as long as no section is declared again. Otherwise
the first header that declares a section again is reported. -/
theorem ofText_join {first second : String} {front back : Document}
    (frontRead : ofText first = .ok front) (backRead : ofText second = .ok back)
    (unmarked : second.toList.head? ≠ some '\ufeff') :
    match back.sections.find? fun name => decide (name ∈ front.sections) with
    | none =>
        ofText (first ++ "\n" ++ second) =
          .ok (front.join back (1 + first.toList.count '\n'))
    | some name =>
        ∃ line, HeaderAt second name line ∧
          ofText (first ++ "\n" ++ second) =
            .error ⟨.repeatedSection name, line + (1 + first.toList.count '\n')⟩ := by
  have plain : dropMark second.toList = second.toList := dropMark_of_unmarked unmarked
  obtain ⟨frontLines, after, frontReads, frontDistinct, rfl⟩ := ofText_eq_ok_iff.1 frontRead
  obtain ⟨backLines, last, backReads, backDistinct, rfl⟩ := ofText_eq_ok_iff.1 backRead
  have backPlain := backReads
  rw [plain] at backPlain
  obtain ⟨final, reads⟩ := reads_join frontReads backPlain
  split
  · next apart =>
      have apart : ∀ name ∈ headerNames backLines, name ∉ headerNames frontLines := by
        simpa [List.find?_eq_none] using apart
      exact ofText_of_reads_moved reads frontDistinct backDistinct rfl rfl backReads.headerNames_ne
        apart
  · next name found =>
      obtain ⟨before, line, others, rfl, earlier⟩ := exists_header_of_find? found
      have shared : name ∈ headerNames frontLines := by
        simpa using List.find?_some found
      have distinct : (headerNames frontLines ++ headerNames before).Nodup := by
        rw [headerNames_append, List.nodup_append] at backDistinct
        refine List.nodup_append.2 ⟨frontDistinct, backDistinct.1, ?_⟩
        rintro name member other also rfl
        simpa [member] using earlier name also
      refine ⟨line, headerAt_of_reads backReads (by simp), ?_⟩
      rw [List.map_append, List.map_cons, ← List.append_assoc] at reads
      apply ofText_of_repeated reads
      · rw [headerNames_append, headerNames_map_moved]
        exact distinct
      · rw [headerNames_append]
        exact List.mem_append_left _ shared

end Runs

open scoped CallStack

/-- The entry before the first header of the second text belongs to the last section of the first;
a section that the first text has already is reported where the second declares it. -/
theorem ofText_join_open_section :
    ofText ("[a]\nx = \"1\"" ++ "\n" ++ "y = \"2\"\n[b]") =
        .ok ⟨["a", "b"], [⟨"a", "x", .text "1", 2⟩, ⟨"a", "y", .text "2", 3⟩]⟩ ∧
      ∃ line, HeaderAt "[b]\n[a]" "a" line ∧
        ofText ("[a]" ++ "\n" ++ "[b]\n[a]") =
          .error ⟨.repeatedSection "a", line + (1 + "[a]".toList.count '\n')⟩ := by
  have open_section := @ofText_join _ "[a]\nx = \"1\"" "y = \"2\"\n[b]"
    ⟨["a"], [⟨"a", "x", .text "1", 2⟩]⟩ ⟨["b"], [⟨"", "y", .text "2", 1⟩]⟩ rfl rfl (by decide)
  have repeated := @ofText_join _ "[a]" "[b]\n[a]" ⟨["a"], []⟩ ⟨["b", "a"], []⟩ rfl rfl (by decide)
  exact ⟨open_section, repeated⟩

end VersionCatalog.Document
