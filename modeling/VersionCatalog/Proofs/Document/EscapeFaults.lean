import VersionCatalog.Proofs.Document.WalkedCalls

/-!
# Faults in the escapes of long texts

The escapes between three double quotes are replaced when the text has been cut out, and their lines
are counted from the quotes. So it matters for the line of a fault whether reading met it there. A
stage of reading `Leads` to another when it calls that stage and a long text can come of it, and
`MeetsEscape` says that from a stage on a long text is come to whose escapes have the fault.
-/

namespace VersionCatalog.Document

open Text

namespace Stage

variable [CallStack]

/-- The calls by which long texts are come to. -/
inductive Leads : Stage → Cursor → Stage → Cursor → Prop where
  | round (loop : Loop) (cursor : Cursor) : Leads (rounds loop) cursor (round loop) cursor
  | further {loop : Loop} {cursor after : Cursor} {item : loop.Item}
      (read : loop.next cursor = .ok (.more item, after)) :
      Leads (rounds loop) cursor (rounds loop) after
  | line {cursor : Cursor} (goesOn : cursor.skipFiller.rest ≠ [])
      (notHeader : cursor.skipFiller.rest.head? ≠ some '[') :
      Leads (round .lines) cursor assignment cursor.skipFiller
  | assigned {cursor named : Cursor} {key : String} (read : readKey cursor = .ok (key, named))
      (equals : named.skipInline.rest.head? = some '=') :
      Leads assignment cursor (value CallStack.tableDepth)
        (named.skipInline.advance 1).skipInline
  | table {cursor : Cursor} {depth : Nat} (opened : cursor.rest.head? = some '\x7b') :
      Leads (value (depth + 1)) cursor (table depth) cursor
  | fields {cursor : Cursor} {depth : Nat}
      (filled : (cursor.advance 1).skipFiller.rest.head? ≠ some '\x7d') :
      Leads (table depth) cursor (rounds (.fields depth cursor.line))
        (cursor.advance 1).skipFiller
  | field {cursor named : Cursor} {depth opening : Nat} {key : String}
      (goesOn : cursor.rest ≠ []) (read : readKey cursor = .ok (key, named))
      (equals : named.skipInline.rest.head? = some '=') :
      Leads (round (.fields depth opening)) cursor (value depth)
        (named.skipInline.advance 1).skipInline
  | array {cursor : Cursor} {depth : Nat} (opened : cursor.rest.head? = some '[') :
      Leads (value depth) cursor array cursor
  | items (cursor : Cursor) :
      Leads array cursor (rounds (.items cursor.line)) (cursor.advance 1)
  | item {cursor : Cursor} {opening : Nat} (goesOn : cursor.skipFiller.rest ≠ [])
      (notClosed : cursor.skipFiller.rest.head? ≠ some ']')
      (notNested : ¬(cursor.skipFiller.rest.head? = some '\x7b' ∨
        cursor.skipFiller.rest.head? = some '[')) :
      Leads (round (.items opening)) cursor text cursor.skipFiller
  | text {cursor : Cursor} {depth : Nat} (notTable : cursor.rest.head? ≠ some '\x7b')
      (notArray : cursor.rest.head? ≠ some '[') : Leads (value depth) cursor text cursor
  | long {cursor : Cursor} (opened : ['"', '"', '"'].isPrefixOf cursor.rest = true) :
      Leads text cursor (long '"') cursor

/-- From a stage on, reading comes to a text between three double quotes whose escapes have this
fault. -/
inductive MeetsEscape : Stage → Cursor → Fault → Prop where
  | escapes {cursor : Cursor} {content rest : List Char} {fault : Fault}
      (opened : ['"', '"', '"'].isPrefixOf cursor.rest = true)
      (closed : splitAtThree? '"' (cursor.advance 3).rest = some (content, rest))
      (failed : unescape content = .error fault) : MeetsEscape (long '"') cursor fault
  | later {stage other : Stage} {cursor begun : Cursor} {fault : Fault}
      (leads : Leads stage cursor other begun) (met : MeetsEscape other begun fault) :
      MeetsEscape stage cursor fault

variable {stage other : Stage} {cursor begun : Cursor} {fault : Fault}

/-! ## Long texts stand further on -/

/-- What is called for the value after a key. -/
theorem mem_callsAfterKey {depth : Nat} {ends : Cursor → List (Stage × Cursor)} {named : Cursor}
    (equals : named.skipInline.rest.head? = some '=') :
    (value depth, (named.skipInline.advance 1).skipInline) ∈ callsAfterKey depth ends named := by
  simp [callsAfterKey, Cursor.peek?, equals]

theorem Leads.mem_calls (leads : Leads stage cursor other begun) :
    (other, begun) ∈ stage.calls cursor := by
  cases leads with
  | round | items => exact List.mem_cons_self
  | further read => simp [calls, read]
  | line goesOn notHeader =>
      refine List.mem_cons_of_mem _ ?_
      split
      · next ended => exact (goesOn ended).elim
      · next rest opened => simp [opened] at notHeader
      · exact List.mem_cons_self
  | assigned read equals =>
      simp only [calls, read]
      exact List.mem_cons_of_mem _ (mem_callsAfterKey equals)
  | table opened =>
      obtain ⟨rest, opened⟩ := List.head?_eq_some_iff.1 opened
      simp [calls, opened]
  | fields filled => simp [calls, Cursor.peek?, filled]
  | field goesOn read equals =>
      simp only [calls, List.isEmpty_iff, if_neg goesOn, read]
      exact List.mem_cons_of_mem _ (mem_callsAfterKey equals)
  | @array cursor depth opened =>
      obtain ⟨rest, opened⟩ := List.head?_eq_some_iff.1 opened
      cases depth <;> simp [calls, opened]
  | item goesOn notClosed notNested =>
      refine List.mem_cons_of_mem _ ?_
      split
      · next ended => exact (goesOn ended).elim
      · next rest closed => simp [closed] at notClosed
      · next rest table => simp [table] at notNested
      · next rest array => simp [array] at notNested
      · exact List.mem_cons_self
  | text notTable notArray =>
      rw [calls.eq_def]
      dsimp only
      split
      · next rest _ opened => simp [opened] at notTable
      · next rest opened => simp [opened] at notTable
      · next rest opened => simp [opened] at notArray
      · exact List.mem_cons_self
  | long opened =>
      obtain ⟨others, whole⟩ := List.isPrefixOf_iff_prefix.1 opened
      simp [calls, ← whole]

/-- Such a text stands further on. -/
theorem MeetsEscape.exists_passes (met : stage.MeetsEscape cursor fault) :
    ∃ reached content after, cursor.Passes reached ∧
      reached.rest = ['"', '"', '"'] ++ content ++ ['"', '"', '"'] ++ after ∧
        unescape content = .error fault := by
  induction met with
  | @escapes cursor content rest fault opened closed failed =>
      obtain ⟨others, three⟩ := List.isPrefixOf_iff_prefix.1 opened
      have inside : (cursor.advance 3).rest = others := by simp [Cursor.advance, ← three]
      rw [inside] at closed
      refine ⟨cursor, content, rest, .refl cursor, ?_, failed⟩
      rw [← three, append_of_splitAtThree? closed]
      simp
  | later leads _ induction =>
      obtain ⟨reached, content, after, passes, whole, failed⟩ := induction
      exact ⟨reached, content, after, (passes_of_mem_calls leads.mem_calls).trans passes, whole,
        failed⟩

/-- It is the code of an escape that is wrong. -/
theorem MeetsEscape.cause_eq (met : stage.MeetsEscape cursor fault) :
    ∃ marker code, fault.cause = .invalidEscape marker code := by
  obtain ⟨_, _, _, _, _, failed⟩ := met.exists_passes
  exact cause_of_unescape failed

/-- Whatever round of a repetition meets it, the repetition does. -/
theorem MeetsEscape.rounds {loop : Loop} {start cursor : Cursor} {fault : Fault}
    (reached : Reaches loop.next start cursor) (met : (round loop).MeetsEscape cursor fault) :
    (Stage.rounds loop).MeetsEscape start fault := by
  suffices whole : ∀ {cursor}, Reaches loop.next start cursor →
      (Stage.rounds loop).MeetsEscape cursor fault →
        (Stage.rounds loop).MeetsEscape start fault from
    whole reached (.later (.round loop _) met)
  intro cursor reached further
  induction reached with
  | start => exact further
  | more _ read induction => exact induction (.later (.further read) further)

/-- Between single quotes there are no escapes. -/
theorem not_meetsEscape_single : ¬(long '\'').MeetsEscape cursor fault := by
  intro met
  cases met with
  | later leads _ => cases leads

/-! ## The fault is that of the whole -/

/-- A stage has the fault of what it leads to. -/
theorem Leads.read_eq_error (leads : Leads stage cursor other begun)
    (failed : other.read begun = .error fault) : stage.read cursor = .error fault := by
  cases leads with
  | round loop => exact many_result_of_error loop.progressive_next failed
  | @further loop _ _ _ read =>
      refine (many_result_of_more loop.progressive_next read).trans ?_
      change (many loop.next begun).result = .error fault at failed
      rw [failed]
      rfl
  | line goesOn notHeader =>
      change readAssignment cursor.skipFiller = _ at failed
      change readLine cursor = _
      rw [readLine_eq, if_neg goesOn, if_neg notHeader, failed]
      rfl
  | @assigned _ named _ read equals =>
      change readValue (named.skipInline.advance 1).skipInline = _ at failed
      change readAssignment cursor = _
      rw [readAssignment_eq, read]
      simp only [Except.bind, if_pos equals, failed]
  | @table _ depth opened =>
      change readTable (readValueWithin depth) cursor = _ at failed
      change readValueWithin (depth + 1) cursor = _
      rw [readValueWithin_succ, if_pos opened, failed]
      rfl
  | @fields _ depth filled =>
      have unclosed : (cursor.advance 1).skipFiller.peek? ≠ some '\x7d' := filled
      change readTable (readValueWithin depth) cursor = _
      simp only [readTable, if_neg unclosed]
      exact failed
  | @field _ named depth opening key goesOn read equals =>
      change readField (readValueWithin depth) opening cursor = _
      change readValueWithin depth (named.skipInline.advance 1).skipInline = _ at failed
      rw [readField_eq, if_neg goesOn, read]
      simp only [Except.bind, if_pos equals, failed]
  | @array _ depth opened =>
      change readArray cursor = _ at failed
      change readValueWithin depth cursor = _
      rw [readValueWithin_flat (by simp [opened]), readFlat_eq, if_pos opened, failed]
      rfl
  | items => exact failed
  | @item _ opening goesOn notClosed notNested =>
      change readText cursor.skipFiller = _ at failed
      change readItem opening cursor = _
      rw [readItem_eq, if_neg goesOn, if_neg notClosed, if_neg notNested, failed]
      rfl
  | @text _ depth notTable notArray =>
      change readText cursor = _ at failed
      change readValueWithin depth cursor = _
      rw [readValueWithin_flat notTable, readFlat_eq, if_neg notArray, failed]
      rfl
  | long opened =>
      change readLong '"' cursor = _ at failed
      change readText cursor = _
      rw [readText_eq, if_pos opened, failed]
      rfl

/-- A fault that is met in escapes is the fault of the whole. -/
theorem MeetsEscape.read_eq_error (met : stage.MeetsEscape cursor fault) :
    stage.read cursor = .error fault := by
  induction met with
  | escapes opened closed failed =>
      change readLong '"' _ = _
      rw [readLong_double closed, failed]
      rfl
  | later leads _ induction => exact leads.read_eq_error induction

end Stage

/-- A fault is met in an escape between three double quotes that stand somewhere in a text. Its line
is counted from these quotes. -/
def HasLongTextFault (text : List Char) (fault : Fault) : Prop :=
  ∃ before content after, text = before ++ ['"', '"', '"'] ++ content ++ ['"', '"', '"'] ++ after ∧
    unescape content = .error fault

/-- Reading a document comes to a text between three double quotes whose escapes have this fault. -/
def MeetsEscapeFault [CallStack] (text : String) (fault : Fault) : Prop :=
  (Stage.rounds .lines).MeetsEscape (Cursor.start (dropMark text.toList)) fault

/-- Such a text stands in the document. -/
theorem MeetsEscapeFault.hasLongTextFault [CallStack] {text : String} {fault : Fault}
    (met : MeetsEscapeFault text fault) : HasLongTextFault text.toList fault := by
  obtain ⟨mark, whole⟩ := dropMark_suffix text.toList
  obtain ⟨reached, content, after, ⟨passed, rest, _⟩, opened, failed⟩ := met.exists_passes
  refine ⟨mark ++ passed, content, after, ?_, failed⟩
  have start : dropMark text.toList = passed ++ reached.rest := rest
  rw [← whole, start, opened]
  simp

end VersionCatalog.Document
