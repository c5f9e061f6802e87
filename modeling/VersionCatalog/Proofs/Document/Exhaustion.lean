import VersionCatalog.Proofs.Document.Lines

/-!
# Running out of the call stack

Only tables inside each other exhaust the call stack. Every other fault is one of the text, and a
text on which the stack is exhausted has more opening braces than tables can be read inside each
other.
-/

namespace VersionCatalog.Document

open Text

/-- A fault of the text, and not of the stack. -/
def Fault.IsTextual (fault : Fault) : Prop :=
  match fault.cause with
  | .exhausted _ => False
  | _ => True

theorem Fault.IsTextual.cause_ne {fault : Fault} (textual : fault.IsTextual) (message : String) :
    fault.cause ≠ .exhausted message := by
  intro stack
  rw [IsTextual, stack] at textual
  exact textual

/-- A reader that never exhausts the stack. -/
def Textual {α : Type} (read : Reader α) : Prop :=
  ∀ ⦃cursor : Cursor⦄ ⦃fault : Fault⦄, read cursor = .error fault → fault.IsTextual

/-! ## Readers that never exhaust the stack -/

theorem Textual.many {α : Type} {next : Reader (Next α)} (progressive : Progressive next)
    (textual : Textual next) : Textual fun cursor => (many next cursor).result := by
  intro cursor fault failed
  obtain ⟨reached, _, met⟩ := exists_of_many_error progressive failed
  exact textual met

theorem textual_readEscape : Textual readEscape := by
  intro cursor fault failed
  obtain ⟨marker, code, cause⟩ := cause_of_readEscape failed
  rw [Fault.IsTextual, cause]
  trivial

theorem textual_readBasicPart (opening : Nat) : Textual (readBasicPart opening) := by
  intro cursor fault failed
  simp only [readBasicPart] at failed
  split at failed
  · cases failed
    trivial
  · cases failed
    trivial
  · cases failed
  · exact textual_readEscape (map_eq_error_iff.1 failed)
  · cases failed

theorem textual_readBasic : Textual readBasic := by
  intro cursor fault failed
  exact Textual.many (progressive_readBasicPart _) (textual_readBasicPart cursor.line)
    (map_eq_error_iff.1 failed)

theorem textual_readLiteral : Textual readLiteral := by
  intro cursor fault failed
  simp only [readLiteral] at failed
  split at failed
  · cases failed
  · cases failed
    trivial

theorem isTextual_of_unescape {text : List Char} {fault : Fault}
    (failed : unescape text = .error fault) : fault.IsTextual := by
  obtain ⟨marker, code, cause⟩ := cause_of_unescape failed
  rw [Fault.IsTextual, cause]
  trivial

theorem textual_readLong (quote : Char) : Textual (readLong quote) := by
  intro cursor fault failed
  simp only [readLong] at failed
  split at failed
  · cases failed
    trivial
  · split at failed
    · exact isTextual_of_unescape (map_eq_error_iff.1 failed)
    · cases failed

theorem textual_readKeyPart : Textual readKeyPart := by
  intro cursor fault failed
  simp only [readKeyPart] at failed
  split at failed
  · exact textual_readBasic failed
  · exact textual_readLiteral failed
  · split at failed
    · cases failed
      trivial
    · cases failed

theorem textual_readDottedPart : Textual readDottedPart := by
  intro cursor fault failed
  simp only [readDottedPart] at failed
  split at failed
  · exact textual_readKeyPart (map_eq_error_iff.1 failed)
  · cases failed

theorem textual_readKey : Textual readKey := by
  intro cursor fault failed
  simp only [readKey] at failed
  split at failed
  · next met =>
      cases failed
      exact textual_readKeyPart met
  · exact Textual.many progressive_readDottedPart textual_readDottedPart
      (map_eq_error_iff.1 failed)

theorem textual_readBareWord : Textual readBareWord := by
  intro cursor fault failed
  simp only [readBareWord] at failed
  split at failed
  · cases failed
    trivial
  · split at failed
    · cases failed
    · cases failed
      trivial

theorem textual_readText : Textual readText := by
  intro cursor fault failed
  simp only [readText] at failed
  have met := map_eq_error_iff.1 failed
  split at met
  · exact textual_readLong _ met
  · exact textual_readLong _ met
  · exact textual_readBasic met
  · exact textual_readLiteral met
  · exact textual_readBareWord met

theorem textual_readItem (opening : Nat) : Textual (readItem opening) := by
  intro cursor fault failed
  simp only [readItem] at failed
  split at failed
  · cases failed
    trivial
  · cases failed
  · cases failed
    trivial
  · cases failed
    trivial
  · split at failed
    · next met =>
        cases failed
        exact textual_readText met
    · split at failed
      · cases failed
      · cases failed
      · cases failed
        trivial
      · cases failed
        trivial

theorem textual_readFlat : Textual readFlat := by
  intro cursor fault failed
  rw [readFlat_eq] at failed
  split at failed
  · exact Textual.many (progressive_readItem _) (textual_readItem cursor.line)
      (map_eq_error_iff.1 failed)
  · exact textual_readText (map_eq_error_iff.1 failed)

theorem isTextual_of_finishLine {cursor : Cursor} {content : LineContent} {fault : Fault}
    (failed : cursor.finishLine content = .error fault) : fault.IsTextual := by
  simp only [Cursor.finishLine] at failed
  split at failed
  · cases failed
  · cases failed
  · cases failed
    trivial

theorem textual_readHeader : Textual readHeader := by
  intro cursor fault failed
  simp only [readHeader] at failed
  split at failed
  · cases failed
    trivial
  · split at failed
    · split at failed
      · cases failed
        trivial
      · exact isTextual_of_finishLine (map_eq_error_iff.1 failed)
    · cases failed
      trivial

theorem isTextual_of_repeatedHeader? {declared : List String} {lines : List Line} {fault : Fault}
    (again : repeatedHeader? declared lines = some fault) : fault.IsTextual := by
  obtain ⟨name, cause⟩ := cause_of_repeatedHeader? again
  rw [Fault.IsTextual, cause]
  trivial

/-! ## Tables inside each other -/

theorem Cursor.Passes.count_le {before after : Cursor} (passes : before.Passes after)
    (char : Char) : after.rest.count char ≤ before.rest.count char := by
  obtain ⟨passed, whole, _⟩ := passes
  rw [whole, List.count_append]
  exact Nat.le_add_left _ _

variable [CallStack]

/-- The stack is exhausted only where more tables are opened than the depth allows for. -/
def ExhaustedBeyond {α : Type} (depth : Nat) (read : Reader α) : Prop :=
  ∀ ⦃cursor : Cursor⦄ ⦃fault : Fault⦄, read cursor = .error fault → ¬fault.IsTextual →
    fault.cause = .exhausted CallStack.message ∧ depth < cursor.rest.count '\x7b'

theorem ExhaustedBeyond.of_passes {α : Type} {depth : Nat} {read : Reader α} {before after : Cursor}
    {fault : Fault} (beyond : ExhaustedBeyond depth read) (passes : before.Passes after)
    (failed : read after = .error fault) (stack : ¬fault.IsTextual) :
    fault.cause = .exhausted CallStack.message ∧ depth < before.rest.count '\x7b' := by
  obtain ⟨cause, deep⟩ := beyond failed stack
  exact ⟨cause, Nat.lt_of_lt_of_le deep (passes.count_le '\x7b')⟩

theorem ExhaustedBeyond.many {α : Type} {depth : Nat} {next : Reader (Next α)}
    (progressive : Progressive next) (beyond : ExhaustedBeyond depth next) :
    ExhaustedBeyond depth fun cursor => (many next cursor).result := by
  intro cursor fault failed stack
  obtain ⟨reached, passes, met⟩ := exists_of_many_error progressive failed
  exact beyond.of_passes passes met stack

theorem exhaustedBeyond_readField {depth : Nat} {readNode : Reader Node}
    (beyond : ExhaustedBeyond depth readNode) (opening : Nat) :
    ExhaustedBeyond depth (readField readNode opening) := by
  intro cursor fault failed stack
  simp only [readField] at failed
  split at failed
  · cases failed
    exact (stack trivial).elim
  · split at failed
    · next met =>
        cases failed
        exact (stack (textual_readKey met)).elim
    · next name middle named =>
        split at failed
        · cases failed
          exact (stack trivial).elim
        · split at failed
          · next met =>
              cases failed
              exact beyond.of_passes
                ((readKey_passesSome named).1.trans (Cursor.passes_separator middle)) met stack
          · split at failed
            · split at failed
              · cases failed
              · cases failed
            · cases failed
            · cases failed
              exact (stack trivial).elim
            · cases failed
              exact (stack trivial).elim

/-- A table opens one more. -/
theorem exhaustedBeyond_of_readTable {depth : Nat} {readNode : Reader Node} {cursor : Cursor}
    {fault : Fault} (beyond : ExhaustedBeyond depth readNode)
    (forward : ∀ {cursor after : Cursor} {node : Node},
      readNode cursor = .ok (node, after) → cursor.Passes after)
    (opened : cursor.rest.head? = some '\x7b') (failed : readTable readNode cursor = .error fault)
    (stack : ¬fault.IsTextual) :
    fault.cause = .exhausted CallStack.message ∧ depth + 1 < cursor.rest.count '\x7b' := by
  obtain ⟨rest, opened⟩ := List.head?_eq_some_iff.1 opened
  simp only [readTable] at failed
  split at failed
  · cases failed
  · have inside := (exhaustedBeyond_readField beyond cursor.line).many
      (progressive_readField _ forward)
    obtain ⟨cause, deep⟩ := inside.of_passes (Cursor.passes_skipFiller _) failed stack
    simp only [Cursor.advance, opened, List.drop_one, List.tail_cons] at deep
    rw [opened, List.count_cons_self]
    exact ⟨cause, Nat.succ_lt_succ deep⟩

theorem exhaustedBeyond_readValueWithin (depth : Nat) :
    ExhaustedBeyond depth (readValueWithin depth) := by
  induction depth with
  | zero =>
      intro cursor fault failed stack
      rw [readValueWithin_zero] at failed
      split at failed
      · next opened =>
          cases failed
          exact ⟨rfl, List.count_pos_iff.2 (List.mem_of_mem_head? opened)⟩
      · exact (stack (textual_readFlat failed)).elim
  | succ depth induction =>
      intro cursor fault failed stack
      rw [readValueWithin_succ] at failed
      split at failed
      · next opened =>
          exact exhaustedBeyond_of_readTable induction
            (fun read => (readValueWithin_passesSome read).1) opened
            (map_eq_error_iff.1 failed) stack
      · exact (stack (textual_readFlat failed)).elim

/-! ## Lines and documents -/

theorem exhaustedBeyond_readAssignment : ExhaustedBeyond CallStack.tableDepth readAssignment := by
  intro cursor fault failed stack
  simp only [readAssignment] at failed
  split at failed
  · next met =>
      cases failed
      exact (stack (textual_readKey met)).elim
  · next key middle named =>
      split at failed
      · cases failed
        exact (stack trivial).elim
      · split at failed
        · next met =>
            cases failed
            exact (exhaustedBeyond_readValueWithin _).of_passes
              ((readKey_passesSome named).1.trans (Cursor.passes_separator middle)) met stack
        · exact (stack (isTextual_of_finishLine (map_eq_error_iff.1 failed))).elim

theorem exhaustedBeyond_readLine : ExhaustedBeyond CallStack.tableDepth readLine := by
  intro cursor fault failed stack
  simp only [readLine] at failed
  split at failed
  · cases failed
  · exact (stack (textual_readHeader (map_eq_error_iff.1 failed))).elim
  · exact exhaustedBeyond_readAssignment.of_passes (Cursor.passes_skipFiller cursor)
      (map_eq_error_iff.1 failed) stack

/-- Where the stack is exhausted, the text opens more tables than can be read inside each other. -/
theorem exhausted_of_ofText {text : String} {fault : Fault} (failed : ofText text = .error fault)
    (stack : ¬fault.IsTextual) :
    fault.cause = .exhausted CallStack.message ∧
      CallStack.tableDepth < text.toList.count '\x7b' := by
  simp only [ofText] at failed
  split at failed
  · next again =>
      cases failed
      exact (stack (isTextual_of_repeatedHeader? again)).elim
  · next ended =>
      cases failed
      have result : (readLines (dropMark text.toList)).result = .error fault := by
        rw [Items.result, ended]
        rfl
      obtain ⟨cause, deep⟩ := (exhaustedBeyond_readLine.many progressive_readLine) result stack
      refine ⟨cause, Nat.lt_of_lt_of_le deep ?_⟩
      exact (dropMark_suffix text.toList).sublist.count_le '\x7b'
  · cases failed

end VersionCatalog.Document
