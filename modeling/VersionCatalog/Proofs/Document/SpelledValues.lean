import VersionCatalog.Proofs.Document.Spelling
import VersionCatalog.Proofs.Document.WrittenValues

/-!
# Reading values however they are spelled

Texts and tables of them are read whatever their layout and however their texts and keys are
spelled, by one induction on values and fields.
-/

namespace VersionCatalog.Document

open Text

variable {later : List Char} {line : Nat}

/-- A key with its equals sign, and the blanks around that. -/
structure SpelledTarget where
  key : SpelledKey
  before : List InlineBlank
  after : List InlineBlank

def SpelledTarget.characters (target : SpelledTarget) : List Char :=
  target.key.characters ++ blanksText target.before ++ '=' :: blanksText target.after

mutual

/-- A text or a table, as it is laid out and spelled. -/
inductive SpelledValue where
  | text (spelled : SpelledText)
  | table (fields : SpelledFields)

/-- What may follow the brace of a table, or a comma in it. -/
inductive SpelledFields where
  | closed (filler : List Filler)
  | last (before : List Filler) (target : SpelledTarget) (value : SpelledValue)
      (after : List Filler)
  | more (before : List Filler) (target : SpelledTarget) (value : SpelledValue)
      (after : List Filler) (others : SpelledFields)

end

mutual

def SpelledValue.characters : SpelledValue → List Char
  | .text spelled => spelled.characters
  | .table fields => '\x7b' :: fields.characters ++ ['\x7d']

def SpelledFields.characters : SpelledFields → List Char
  | .closed filler => fillerText filler
  | .last before target value after =>
      fillerText before ++ target.characters ++ value.characters ++ fillerText after
  | .more before target value after others =>
      fillerText before ++ target.characters ++ value.characters ++ fillerText after ++
        ',' :: others.characters

end

mutual

/-- What is read for a value. -/
def SpelledValue.node : SpelledValue → Node
  | .text spelled => .text spelled.content
  | .table fields => .table fields.nodes

/-- What is read for the fields of a table. -/
def SpelledFields.nodes : SpelledFields → List (String × Node)
  | .closed _ => []
  | .last _ target value _ => [(target.key.name, value.node)]
  | .more _ target value _ others => (target.key.name, value.node) :: others.nodes

end

/-! ## Targets -/

theorem isFillerChar_of_isKeyChar {char : Char} (keyed : isKeyChar char = true) :
    isFillerChar char = false := by
  rw [Bool.eq_false_iff]
  intro filler
  simp only [isFillerChar, isInlineBlank, Bool.or_eq_true, beq_iff_eq] at filler
  rcases filler with ((rfl | rfl | rfl) | rfl) | rfl
  all_goals exact absurd keyed (by decide)

namespace SpelledTarget

variable (target : SpelledTarget)

theorem stops_append : Stops isFillerChar (target.characters ++ later) := by
  simp only [characters, List.append_assoc]
  exact target.key.stops_append rfl rfl fun _ => isFillerChar_of_isKeyChar

/-- A target begins with no mark that a key cannot begin with. -/
theorem head?_append {char : Char} (double : char ≠ '"') (single : char ≠ '\'')
    (unkeyed : isKeyChar char = false) : (target.characters ++ later).head? ≠ some char := by
  have stops : Stops (· == char) (target.characters ++ later) := by
    simp only [characters, List.append_assoc]
    refine target.key.stops_append ?_ ?_ ?_
    · simpa using Ne.symm double
    · simpa using Ne.symm single
    · intro other keyed
      rw [beq_eq_false_iff_ne]
      rintro rfl
      simp [keyed] at unkeyed
  intro first
  simpa using stops char first

/-- The equals sign comes next after the key of a target, and then what follows. -/
theorem readKey_append (begun : 0 < line) (stops : Stops isInlineBlank later) :
    ∃ middle, readKey ⟨target.characters ++ later, line⟩ = .ok (target.key.name, middle) ∧
      middle.skipInline.rest.head? = some '=' ∧
      (middle.skipInline.advance 1).skipInline =
        ⟨later, line + target.characters.count '\n'⟩ := by
  have whole : target.characters ++ later = target.key.characters ++
      (blanksText target.before ++ '=' :: (blanksText target.after ++ later)) := by
    simp [characters]
  have counted : target.characters.count '\n' = target.key.characters.count '\n' := by
    simp [characters, count_blanksText]
  have equals : Stops isInlineBlank ('=' :: (blanksText target.after ++ later)) := stops_cons rfl
  have passed := @skipInline_blanksText _ (line + target.key.characters.count '\n') target.before
    equals
  have keyEnds : Stops isKeyChar
      (blanksText target.before ++ '=' :: (blanksText target.after ++ later)) := by
    cases target.before with
    | nil => exact stops_cons rfl
    | cons blank blanks => cases blank <;> exact stops_cons rfl
  have undotted := congrArg Cursor.rest passed
  simp only [Cursor.skipInline] at undotted
  have named := target.key.readKey_append begun keyEnds (by simp [undotted])
  rw [passed] at named
  rw [whole, counted]
  refine ⟨_, named, ?_, ?_⟩
  · rw [← passed, Cursor.skipInline_skipInline, passed]
    rfl
  · rw [← passed, Cursor.skipInline_skipInline, passed, advance_one_cons rfl,
      skipInline_blanksText _ stops]

end SpelledTarget

/-! ## Values -/

theorem SpelledValue.stops_append (value : SpelledValue) :
    Stops isInlineBlank (value.characters ++ later) := by
  cases value with
  | text spelled => exact spelled.stops_append
  | table fields => exact stops_cons rfl

theorem readField_spelled {readNode : Reader Node} {opening : Nat} {separator : Char}
    {stopped : Cursor} (target : SpelledTarget) (value : SpelledValue) (after : List Filler)
    (begun : 0 < line)
    (separates : isFillerChar separator = false)
    (found : readNode ⟨value.characters ++ (fillerText after ++ separator :: later),
      line + target.characters.count '\n'⟩ = .ok (value.node, stopped))
    (position : stopped.skipInline = (⟨fillerText after ++ separator :: later,
      line + target.characters.count '\n' + value.characters.count '\n'⟩ : Cursor).skipInline) :
    let behind : Cursor := ⟨later, line + target.characters.count '\n' +
      value.characters.count '\n' + (fillerText after).count '\n'⟩
    let field : Cursor :=
      ⟨target.characters ++ (value.characters ++ (fillerText after ++ separator :: later)), line⟩
    (separator = '\x7d' →
        readField readNode opening field = .ok (.last (target.key.name, value.node), behind)) ∧
      (separator = ',' →
        readField readNode opening field =
          if behind.skipFiller.rest.head? = some '\x7d' then
            .ok (.last (target.key.name, value.node), behind.skipFiller.advance 1)
          else .ok (.more (target.key.name, value.node), behind.skipFiller)) := by
  obtain ⟨middle, named, assigned, valued⟩ := target.readKey_append begun
    (@SpelledValue.stops_append (fillerText after ++ separator :: later) value)
  rw [← valued] at found
  apply readField_separated named assigned found
  rw [← Cursor.skipFiller_skipInline, position, Cursor.skipFiller_skipInline]
  exact skipFiller_fillerText after (stops_cons separates)

variable [CallStack]

mutual

/-- A value is read as its node however it is laid out and spelled, up to blanks after it. -/
theorem SpelledValue.readValueWithin_append {later : List Char} {line depth : Nat}
    (value : SpelledValue) (shallow : value.node.nesting ≤ depth) (begun : 0 < line)
    (closes : ClosesText later) :
    ∃ after, readValueWithin depth ⟨value.characters ++ later, line⟩ = .ok (value.node, after) ∧
      after.skipInline = (⟨later, line + value.characters.count '\n'⟩ : Cursor).skipInline := by
  match value, depth with
  | .text spelled, depth =>
      simp only [SpelledValue.characters, SpelledValue.node]
      exact spelled.readValueWithin_append depth begun closes
  | .table fields, depth + 1 =>
      have whole : (SpelledValue.table fields).characters ++ later =
          '\x7b' :: (fields.characters ++ '\x7d' :: later) := by
        simp [SpelledValue.characters]
      have counted : (SpelledValue.table fields).characters.count '\n' =
          fields.characters.count '\n' := by
        simp [SpelledValue.characters]
      have read : readTable (readValueWithin depth)
          ⟨'\x7b' :: (fields.characters ++ '\x7d' :: later), line⟩ =
            .ok (fields.nodes, ⟨later, line + fields.characters.count '\n'⟩) := by
        rw [readTable_eq_ok_iff fun read => (readValueWithin_passesSome read).1,
          advance_one_cons rfl]
        exact fields.readsFields_append (Nat.le_of_succ_le_succ shallow) begun
      rw [whole, counted, readValueWithin_succ, if_pos List.head?_cons, read]
      exact ⟨_, rfl, rfl⟩

/-- The fields of a table are read up to the brace after them. -/
theorem SpelledFields.readsFields_append {later : List Char} {line opening depth : Nat}
    (fields : SpelledFields) (shallow : Node.nestingIn fields.nodes ≤ depth) (begun : 0 < line) :
    ReadsFields (readValueWithin depth) opening
      (⟨fields.characters ++ '\x7d' :: later, line⟩ : Cursor).skipFiller fields.nodes
      ⟨later, line + fields.characters.count '\n'⟩ := by
  match fields with
  | .closed filler =>
      have brace : Stops isFillerChar ('\x7d' :: later) := stops_cons rfl
      rw [SpelledFields.characters, skipFiller_fillerText filler brace]
      exact .inl ⟨rfl, rfl, (advance_one_cons rfl).symm⟩
  | .last before target value after =>
      have closes : ClosesText (fillerText after ++ '\x7d' :: later) :=
        closesText_fillerText_append after (closesText_cons rfl)
      obtain ⟨stopped, found, position⟩ := @SpelledValue.readValueWithin_append _
        (line + (fillerText before).count '\n' + target.characters.count '\n') depth value
        (Nat.max_le.1 shallow).1 (by omega) closes
      have read := (@readField_spelled _ _ _ opening _ _ target value after (by omega) rfl found
        position).1 rfl
      have whole : (SpelledFields.last before target value after).characters ++ '\x7d' :: later =
          fillerText before ++ (target.characters ++ (value.characters ++
            (fillerText after ++ '\x7d' :: later))) := by
        simp [SpelledFields.characters]
      have counted : line + (SpelledFields.last before target value after).characters.count '\n' =
          line + (fillerText before).count '\n' + target.characters.count '\n' +
            value.characters.count '\n' + (fillerText after).count '\n' := by
        simp [SpelledFields.characters]
        omega
      rw [whole, counted, skipFiller_fillerText before target.stops_append]
      exact .inr ⟨target.head?_append (by decide) (by decide) rfl, .last read⟩
  | .more before target value after others =>
      have closes :
          ClosesText (fillerText after ++ ',' :: (others.characters ++ '\x7d' :: later)) :=
        closesText_fillerText_append after (closesText_cons rfl)
      obtain ⟨stopped, found, position⟩ := @SpelledValue.readValueWithin_append _
        (line + (fillerText before).count '\n' + target.characters.count '\n') depth value
        (Nat.max_le.1 shallow).1 (by omega) closes
      have read := (@readField_spelled _ _ _ opening _ _ target value after (by omega) rfl found
        position).2 rfl
      have further := @SpelledFields.readsFields_append later
        (line + (fillerText before).count '\n' + target.characters.count '\n' +
          value.characters.count '\n' + (fillerText after).count '\n') opening depth others
        (Nat.max_le.1 shallow).2 (by omega)
      have whole : (SpelledFields.more before target value after others).characters ++
          '\x7d' :: later = fillerText before ++ (target.characters ++ (value.characters ++
            (fillerText after ++ ',' :: (others.characters ++ '\x7d' :: later)))) := by
        simp [SpelledFields.characters]
      have counted :
          line + (SpelledFields.more before target value after others).characters.count '\n' =
            line + (fillerText before).count '\n' + target.characters.count '\n' +
              value.characters.count '\n' + (fillerText after).count '\n' +
                others.characters.count '\n' := by
        simp [SpelledFields.characters]
        omega
      rw [whole, counted, skipFiller_fillerText before target.stops_append]
      exact further.cons (target.head?_append (by decide) (by decide) rfl) read

end

end VersionCatalog.Document
