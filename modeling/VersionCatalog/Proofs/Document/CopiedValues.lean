import VersionCatalog.Proofs.Document.CopiedReaders

/-!
# Values on a copy

The same for values, by induction on how deeply tables may be nested.
-/

namespace VersionCatalog.Document

open Text

variable {copy : Copy} {original : List Char} {position : Cursor}

section Table

variable [CallStack] {depth : Nat}

/-- A field is the same in the copy when the values after its key are. -/
theorem readField_copy (suits : copy.Suits original) (within : position.Within original)
    (opening : Nat)
    (agrees : ∀ {reached : Cursor}, reached.Within original →
      copy.Agrees ((Stage.value depth).MeetsEscape reached) id (readValueWithin depth reached)
        (readValueWithin depth (copy.cursor reached))) :
    copy.Agrees ((Stage.round (.fields depth opening)).MeetsEscape position) (Next.map id)
      (readField (readValueWithin depth) opening position)
      (readField (readValueWithin depth) (opening + copy.lines) (copy.cursor position)) := by
  simp only [readField_eq, Copy.cursor_rest, Copy.text_eq_nil_iff]
  refine .ite (fun _ => .fault_at _ _) fun goesOn => ?_
  refine (readKey_copy suits within).bind fun name middle named => ?_
  simp only [Copy.skipInline, Copy.cursor_rest, Copy.head?_text_iff, ne_eq, Char.reduceEq,
    not_false_eq_true]
  refine .ite (fun assigned => ?_) fun _ => .fault _ _
  rw [Copy.advance_one assigned (by decide), Copy.skipInline]
  have inside := within.of_passes
    ((readKey_passesSome named).1.trans (Cursor.passes_separator middle))
  refine ((agrees inside).mono fun _ met => .later (.field goesOn named assigned) met).bind
    fun value stopped _ => ?_
  simp only [Copy.skipFiller, Copy.cursor_rest, Copy.text_eq_nil_iff, Copy.head?_text_iff, ne_eq,
    Char.reduceEq, not_false_eq_true]
  refine .ite (fun separated => ?_) fun _ => .ite (fun closed => ?_) fun _ => ?_
  · rw [Copy.advance_one separated (by decide)]
    simp only [Copy.skipFiller, Copy.cursor_rest, Copy.head?_text_iff, ne_eq, Char.reduceEq,
      not_false_eq_true]
    refine .ite (fun closed => ?_) fun _ => .found _ _
    rw [Copy.advance_one closed (by decide)]
    exact .found _ _
  · rw [Copy.advance_one closed (by decide)]
    exact .found _ _
  · exact .ite (fun _ => .fault_at _ _) fun _ => .fault _ _

theorem readTable_copy (suits : copy.Suits original) (within : position.Within original)
    (opened : position.rest.head? = some '\x7b')
    (agrees : ∀ {reached : Cursor}, reached.Within original →
      copy.Agrees ((Stage.value depth).MeetsEscape reached) id (readValueWithin depth reached)
        (readValueWithin depth (copy.cursor reached))) :
    copy.Agrees ((Stage.table depth).MeetsEscape position) id
      (readTable (readValueWithin depth) position)
      (readTable (readValueWithin depth) (copy.cursor position)) := by
  have forward := fun opening => @progressive_readField (readValueWithin depth) opening
    fun read => (readValueWithin_passesSome read).1
  have inside := within.of_passes
    ((Cursor.passes_advance position 1).trans (Cursor.passes_skipFiller _))
  simp only [readTable, Cursor.peek?, Copy.advance_one opened (by decide), Copy.skipFiller,
    Copy.cursor_rest, Copy.head?_text_iff, ne_eq, Char.reduceEq, not_false_eq_true]
  refine .ite (fun closed => ?_) fun filled => ?_
  · rw [Copy.advance_one closed (by decide)]
    exact .found _ _
  · have fields : Items.Agrees copy ((Stage.table depth).MeetsEscape position) id (· = []) _ _ :=
      many_copy_of_agrees (position.advance 1).skipFiller (forward position.line)
        (forward (position.line + copy.lines)) fun reaches =>
          (readField_copy suits (inside.of_passes (reaches.passes (forward _))) position.line
            agrees).mono fun _ met => .later (.fields filled) (.rounds reaches met)
    have read := fields.result
    rw [List.map_id_fun] at read
    exact read

end Table

variable [CallStack]

theorem readFlat_copy (depth : Nat) (suits : copy.Suits original)
    (within : position.Within original) (notTable : position.rest.head? ≠ some '\x7b') :
    copy.Agrees ((Stage.value depth).MeetsEscape position) id (readFlat position)
      (readFlat (copy.cursor position)) := by
  simp only [readFlat_eq, Copy.cursor_rest, Copy.head?_text_iff, ne_eq, Char.reduceEq,
    not_false_eq_true]
  refine .ite (fun array => ?_) fun notArray => ?_
  · exact ((readArray_copy suits within array).mono fun _ met => .later (.array array) met).map
      fun _ _ => .found _ _
  · exact ((readText_copy suits within).mono fun _ met =>
      .later (.text notTable notArray) met).map fun _ _ => .found _ _

theorem readValueWithin_copy (depth : Nat) (suits : copy.Suits original)
    (within : position.Within original) :
    copy.Agrees ((Stage.value depth).MeetsEscape position) id (readValueWithin depth position)
      (readValueWithin depth (copy.cursor position)) := by
  induction depth generalizing position with
  | zero =>
      simp only [readValueWithin_zero, Copy.cursor_rest, Copy.head?_text_iff, ne_eq,
        Char.reduceEq, not_false_eq_true]
      exact .ite (fun _ => .fault _ _) fun notTable => readFlat_copy 0 suits within notTable
  | succ depth induction =>
      simp only [readValueWithin_succ, Copy.cursor_rest, Copy.head?_text_iff, ne_eq,
        Char.reduceEq, not_false_eq_true]
      refine .ite (fun table => ?_) fun notTable => readFlat_copy _ suits within notTable
      exact ((readTable_copy suits within table induction).mono fun _ met =>
        .later (.table table) met).map fun _ _ => .found _ _

theorem readValue_copy (suits : copy.Suits original) (within : position.Within original) :
    copy.Agrees ((Stage.value CallStack.tableDepth).MeetsEscape position) id (readValue position)
      (readValue (copy.cursor position)) :=
  readValueWithin_copy CallStack.tableDepth suits within

end VersionCatalog.Document
