import VersionCatalog.Proofs.Document.Values
import VersionCatalog.Proofs.Document.WrittenKeys

/-!
# Reading values as they are written

Arrays are read by induction on their items. Tables and the values in them are read by one induction
on both. What is read are nodes with nested tables; `flatten_node` says that flattening them gives
the value that is meant.
-/

namespace VersionCatalog.Document

open Text

variable {later : List Char} {line : Nat}

/-! ## Characters of written texts -/

theorem count_blanksText (blanks : List InlineBlank) : (blanksText blanks).count '\n' = 0 := by
  rw [List.count_eq_zero]
  intro member
  obtain ⟨blank, _, feed⟩ := List.mem_map.1 member
  cases blank <;> simp [InlineBlank.char] at feed

theorem count_quoted (content : String) : (quoted content).count '\n' = 0 := by
  rw [List.count_eq_zero]
  intro member
  simp only [quoted, List.cons_append, List.mem_cons, List.mem_append, List.mem_flatMap,
    List.not_mem_nil, or_false] at member
  rcases member with quote | ⟨char, _, inside⟩ | quote
  · simp at quote
  · unfold escaped at inside
    split at inside
    · simp at inside
    · simp at inside
    · simp at inside
    · next notFeed =>
        rw [List.mem_singleton] at inside
        exact notFeed inside.symm
  · simp at quote

theorem count_target (target : Target) : target.text.count '\n' = 0 := by
  have dottedParts : (target.key.others.flatMap DottedPart.text).count '\n' = 0 := by
    rw [List.count_eq_zero]
    intro member
    obtain ⟨dotted, _, inside⟩ := List.mem_flatMap.1 member
    have none_inside : dotted.text.count '\n' = 0 := by
      simp [DottedPart.text, count_blanksText, count_quoted]
    exact List.count_eq_zero.1 none_inside inside
  simp [Target.text, WrittenKey.text, count_blanksText, count_quoted, dottedParts]

/-- Filler begins with filler characters only. -/
theorem head?_fillerText_append {char : Char} (filler : List Filler)
    (visible : isFillerChar char = false) (differs : later.head? ≠ some char) :
    (fillerText filler ++ later).head? ≠ some char := by
  cases filler with
  | nil => exact differs
  | cons first filler =>
      intro opens
      cases first <;> cases opens <;> cases visible

/-! ## Arrays -/

/-- An item is read with the separator after it. -/
theorem readItem_written {opening : Nat} {separator : Char} (before : List Filler) (item : String)
    (after : List Filler) (separates : isFillerChar separator = false)
    (unquoted : separator ≠ '"') :
    let cursor : Cursor :=
      ⟨fillerText before ++ (quoted item ++ (fillerText after ++ separator :: later)), line⟩
    let behind : Cursor :=
      ⟨later, line + (fillerText before).count '\n' + (fillerText after).count '\n'⟩
    (separator = ',' → readItem opening cursor = .ok (.more item, behind)) ∧
      (separator = ']' → readItem opening cursor = .ok (.last item, behind)) := by
  have stops : Stops isFillerChar (separator :: later) := stops_cons separates
  have opened := @skipFiller_fillerText (quoted item ++ (fillerText after ++ separator :: later))
    line before (stops_quoted_append item rfl)
  have read := @readText_quoted (fillerText after ++ separator :: later)
    (line + (fillerText before).count '\n') item
    (head?_fillerText_append after rfl (by simpa using unquoted))
  rw [← opened] at read
  have step := @readItem_text opening _ _ '"' item (by rw [opened]; rfl) (by decide) (by decide)
    (by decide) read
  rw [skipFiller_fillerText after stops] at step
  constructor
  · rintro rfl
    rw [step.1 rfl, advance_one_cons rfl]
  · rintro rfl
    rw [step.2 rfl, advance_one_cons rfl]

theorem reads_items {opening : Nat} (items : WrittenItems) :
    Reads (readItem opening) ⟨items.text ++ ']' :: later, line⟩ items.contents
      ⟨later, line + items.text.count '\n'⟩ := by
  induction items generalizing line with
  | closed filler =>
      have bracket : Stops isFillerChar (']' :: later) := stops_cons rfl
      have opened := @skipFiller_fillerText _ line filler bracket
      refine .stop ?_
      rw [WrittenItems.text, readItem_close (by rw [opened]; rfl), opened,
        advance_one_cons rfl]
  | last before item after =>
      have read := (@readItem_written later line opening ']' before item after rfl (by simp)).2 rfl
      have counted : line + (WrittenItems.last before item after).text.count '\n' =
          line + (fillerText before).count '\n' + (fillerText after).count '\n' := by
        simp [WrittenItems.text, count_quoted]
        omega
      rw [counted, WrittenItems.text, List.append_assoc, List.append_assoc]
      exact .last read
  | more before item after others induction =>
      have read := (@readItem_written (others.text ++ ']' :: later) line opening ',' before item
        after rfl (by simp)).1 rfl
      have whole : (WrittenItems.more before item after others).text ++ ']' :: later =
          fillerText before ++ (quoted item ++
            (fillerText after ++ ',' :: (others.text ++ ']' :: later))) := by
        simp [WrittenItems.text]
      have counted : line + (WrittenItems.more before item after others).text.count '\n' =
          line + (fillerText before).count '\n' + (fillerText after).count '\n' +
            others.text.count '\n' := by
        simp [WrittenItems.text, count_quoted]
        omega
      rw [whole, counted]
      exact .more read induction

/-! ## Tables -/

theorem stops_target_append (target : Target) : Stops isFillerChar (target.text ++ later) := by
  simp only [Target.text, WrittenKey.text, List.append_assoc]
  exact stops_quoted_append _ rfl

theorem head?_target_append {char : Char} (target : Target) (other : char ≠ '"') :
    (target.text ++ later).head? ≠ some char := by
  simp [Target.text, WrittenKey.text, quoted, Ne.symm other]

theorem stops_characters_append (value : WrittenValue) :
    Stops isInlineBlank (value.characters ++ later) := by
  cases value with
  | text content => exact stops_quoted_append content rfl
  | array items =>
      rw [WrittenValue.characters, List.cons_append]
      exact stops_cons rfl
  | table fields =>
      rw [WrittenValue.characters, List.cons_append]
      exact stops_cons rfl

/-- A field is read with the separator after it, and with the filler after a comma. -/
theorem readField_separated {readNode : Reader Node} {opening : Nat} {separator : Char}
    {cursor middle stopped : Cursor} {name : String} {value : Node}
    (named : readKey cursor = .ok (name, middle))
    (assigned : middle.skipInline.rest.head? = some '=')
    (found : readNode (middle.skipInline.advance 1).skipInline = .ok (value, stopped))
    (position : stopped.skipFiller = ⟨separator :: later, line⟩) :
    let behind : Cursor := ⟨later, line⟩
    (separator = '\x7d' → readField readNode opening cursor = .ok (.last (name, value), behind)) ∧
      (separator = ',' →
        readField readNode opening cursor =
          if behind.skipFiller.rest.head? = some '\x7d' then
            .ok (.last (name, value), behind.skipFiller.advance 1)
          else .ok (.more (name, value), behind.skipFiller)) := by
  have step := @readField_value readNode opening _ _ _ _ _ named assigned found
  rw [position] at step
  constructor
  · rintro rfl
    rw [step.1 rfl, advance_one_cons rfl]
  · rintro rfl
    rw [step.2 rfl, advance_one_cons rfl]

theorem readField_written {readNode : Reader Node} {opening : Nat} {separator : Char}
    (target : Target) (value : WrittenValue) (after : List Filler)
    (separates : isFillerChar separator = false)
    (found : readNode ⟨value.characters ++ (fillerText after ++ separator :: later), line⟩ =
      .ok (value.node, ⟨fillerText after ++ separator :: later,
        line + value.characters.count '\n'⟩)) :
    let behind : Cursor :=
      ⟨later, line + value.characters.count '\n' + (fillerText after).count '\n'⟩
    let field : Cursor :=
      ⟨target.text ++ (value.characters ++ (fillerText after ++ separator :: later)), line⟩
    (separator = '\x7d' →
        readField readNode opening field =
          .ok (.last (dotted target.key.parts, value.node), behind)) ∧
      (separator = ',' →
        readField readNode opening field =
          if behind.skipFiller.rest.head? = some '\x7d' then
            .ok (.last (dotted target.key.parts, value.node), behind.skipFiller.advance 1)
          else .ok (.more (dotted target.key.parts, value.node), behind.skipFiller)) := by
  obtain ⟨middle, named, assigned, position⟩ := @readKey_target
    (value.characters ++ (fillerText after ++ separator :: later)) line target
    (stops_characters_append value)
  rw [← position] at found
  exact readField_separated named assigned found
    (skipFiller_fillerText after (stops_cons separates))

/-- The fields of a table are read from a position to another one, if there are any before its
brace. -/
def ReadsFields (readNode : Reader Node) (opening : Nat) (cursor : Cursor)
    (fields : List (String × Node)) (after : Cursor) : Prop :=
  (cursor.rest.head? = some '\x7d' ∧ fields = [] ∧ after = cursor.advance 1) ∨
    (cursor.rest.head? ≠ some '\x7d' ∧ Reads (readField readNode opening) cursor fields after)

/-- A field and a comma come before further fields, which may be none. -/
theorem ReadsFields.cons {readNode : Reader Node} {opening : Nat} {cursor behind after : Cursor}
    {field : String × Node} {fields : List (String × Node)}
    (further : ReadsFields readNode opening behind fields after)
    (unclosed : cursor.rest.head? ≠ some '\x7d')
    (read : readField readNode opening cursor =
      if behind.rest.head? = some '\x7d' then .ok (.last field, behind.advance 1)
      else .ok (.more field, behind)) :
    ReadsFields readNode opening cursor (field :: fields) after := by
  refine .inr ⟨unclosed, ?_⟩
  rcases further with ⟨closed, rfl, rfl⟩ | ⟨goesOn, reads⟩
  · rw [if_pos closed] at read
    exact .last read
  · rw [if_neg goesOn] at read
    exact .more read reads

/-! ## Flattening -/

/-- The name of a field in a table that stands at a path. -/
def under (path : List String) (name : String) : String :=
  if path = [] then name else dotted path ++ "." ++ name

theorem dotted_append {front path : List String} (written : path ≠ []) :
    dotted (front ++ path) = under front (dotted path) := by
  unfold under
  split
  · next nothing => rw [nothing, List.nil_append]
  · next something => exact String.intercalate_append_of_ne_nil something written

/-- The names below two paths are those below the paths one after the other. -/
theorem under_under {front path : List String} (written : path ≠ []) (name : String) :
    under front (dotted path ++ "." ++ name) = under (front ++ path) name := by
  have longer : front ++ path ≠ [] := by simp [written]
  rw [under, under, if_neg longer, dotted_append written, under]
  split
  · rfl
  · simp only [String.append_assoc]

mutual

/-- Flattening a field lists the leaves of its value, each with the keys that lead to it. -/
theorem flattenField_node {front path : List String} (value : WrittenValue) (written : path ≠ []) :
    (value.node.flattenField (dotted path)).map
        (fun field => (under front field.1, field.2)) =
      (value.leaves (front ++ path)).map fun (keys, leaf) => (dotted keys, leaf) := by
  match value with
  | .text content =>
      simp only [WrittenValue.node, Node.flattenField, WrittenValue.leaves, List.map_cons,
        List.map_nil, dotted_append written]
  | .array items =>
      simp only [WrittenValue.node, Node.flattenField, WrittenValue.leaves, List.map_cons,
        List.map_nil, dotted_append written]
  | .table fields =>
      simp only [WrittenValue.node, Node.flattenField, WrittenValue.leaves, List.map_map]
      rw [← flattenFields_nodes fields]
      apply List.map_congr_left
      intro field _
      simp only [Function.comp_apply, under_under written]

theorem flattenFields_nodes {front : List String} (fields : WrittenFields) :
    (Node.flattenFields fields.nodes).map (fun field => (under front field.1, field.2)) =
      (fields.leaves front).map fun (keys, leaf) => (dotted keys, leaf) := by
  match fields with
  | .closed filler => rfl
  | .last _ target value _ =>
      have first := @flattenField_node front target.key.parts value (by simp [WrittenKey.parts])
      simpa only [WrittenFields.nodes, Node.flattenFields, WrittenFields.leaves, List.append_nil]
        using first
  | .more _ target value _ others =>
      have first := @flattenField_node front target.key.parts value (by simp [WrittenKey.parts])
      have rest := @flattenFields_nodes front others
      simp only [WrittenFields.nodes, Node.flattenFields, WrittenFields.leaves, List.map_append,
        first, rest]

end

theorem flatten_node (value : WrittenValue) : value.node.flatten = value.meaning := by
  cases value with
  | text content => rfl
  | array items => rfl
  | table fields =>
      have flat := @flattenFields_nodes [] fields
      have unmoved : (fun field : String × Leaf => (under [] field.1, field.2)) = id := by
        funext field
        rfl
      rw [unmoved, List.map_id] at flat
      rw [WrittenValue.node, Node.flatten, WrittenValue.meaning, flat]

/-! ## Tables inside each other -/

variable [CallStack]

mutual

/-- A written value is read as its node, unless a further double quote follows. -/
theorem readValueWithin_characters {later : List Char} {line depth : Nat} (value : WrittenValue)
    (shallow : value.node.nesting ≤ depth) (unquoted : later.head? ≠ some '"') :
    readValueWithin depth ⟨value.characters ++ later, line⟩ =
      .ok (value.node, ⟨later, line + value.characters.count '\n'⟩) := by
  match value, depth with
  | .text content, depth =>
      have notTable : (quoted content ++ later).head? ≠ some '\x7b' := by simp [quoted]
      have notArray : (quoted content ++ later).head? ≠ some '[' := by simp [quoted]
      rw [WrittenValue.characters, readValueWithin_flat notTable, readFlat_eq, if_neg notArray,
        readText_quoted content unquoted, count_quoted]
      rfl
  | .array items, depth =>
      have whole : (WrittenValue.array items).characters ++ later =
          '[' :: (items.text ++ ']' :: later) := by
        simp [WrittenValue.characters]
      have counted : (WrittenValue.array items).characters.count '\n' = items.text.count '\n' := by
        simp [WrittenValue.characters]
      have read : readArray ⟨'[' :: (items.text ++ ']' :: later), line⟩ =
          .ok (items.contents, ⟨later, line + items.text.count '\n'⟩) := by
        rw [readArray_eq_ok_iff, advance_one_cons rfl]
        exact reads_items items
      rw [whole, counted, readValueWithin_flat (by simp), readFlat_eq, if_pos List.head?_cons, read]
      rfl
  | .table fields, depth + 1 =>
      have whole : (WrittenValue.table fields).characters ++ later =
          '\x7b' :: (fields.characters ++ '\x7d' :: later) := by
        simp [WrittenValue.characters]
      have counted : (WrittenValue.table fields).characters.count '\n' =
          fields.characters.count '\n' := by
        simp [WrittenValue.characters]
      have read : readTable (readValueWithin depth)
          ⟨'\x7b' :: (fields.characters ++ '\x7d' :: later), line⟩ =
            .ok (fields.nodes, ⟨later, line + fields.characters.count '\n'⟩) := by
        rw [readTable_eq_ok_iff fun read => (readValueWithin_passesSome read).1,
          advance_one_cons rfl]
        exact readsFields_characters fields (Nat.le_of_succ_le_succ shallow)
      rw [whole, counted, readValueWithin_succ, if_pos List.head?_cons, read]
      rfl

/-- Written fields are read up to the brace after them. -/
theorem readsFields_characters {later : List Char} {line opening depth : Nat}
    (fields : WrittenFields) (shallow : Node.nestingIn fields.nodes ≤ depth) :
    ReadsFields (readValueWithin depth) opening
      (⟨fields.characters ++ '\x7d' :: later, line⟩ : Cursor).skipFiller fields.nodes
      ⟨later, line + fields.characters.count '\n'⟩ := by
  match fields with
  | .closed filler =>
      have brace : Stops isFillerChar ('\x7d' :: later) := stops_cons rfl
      rw [WrittenFields.characters, skipFiller_fillerText filler brace]
      exact .inl ⟨rfl, rfl, (advance_one_cons rfl).symm⟩
  | .last before target value after =>
      have found := @readValueWithin_characters (fillerText after ++ '\x7d' :: later)
        (line + (fillerText before).count '\n') depth value ((Nat.max_le.1 shallow).1)
        (head?_fillerText_append after rfl (by simp))
      have read := (@readField_written _ _ _ opening _ target value after rfl found).1 rfl
      have whole : (WrittenFields.last before target value after).characters ++ '\x7d' :: later =
          fillerText before ++ (target.text ++ (value.characters ++
            (fillerText after ++ '\x7d' :: later))) := by
        simp [WrittenFields.characters]
      have counted : line + (WrittenFields.last before target value after).characters.count '\n' =
          line + (fillerText before).count '\n' + value.characters.count '\n' +
            (fillerText after).count '\n' := by
        simp [WrittenFields.characters, count_target]
        omega
      rw [whole, counted, skipFiller_fillerText before (stops_target_append target)]
      exact .inr ⟨head?_target_append target (by decide), .last read⟩
  | .more before target value after others =>
      have found := @readValueWithin_characters
        (fillerText after ++ ',' :: (others.characters ++ '\x7d' :: later))
        (line + (fillerText before).count '\n') depth value ((Nat.max_le.1 shallow).1)
        (head?_fillerText_append after rfl (by simp))
      have read := (@readField_written _ _ _ opening _ target value after rfl found).2 rfl
      have further := @readsFields_characters later
        (line + (fillerText before).count '\n' + value.characters.count '\n' +
          (fillerText after).count '\n') opening depth others ((Nat.max_le.1 shallow).2)
      have whole : (WrittenFields.more before target value after others).characters ++
          '\x7d' :: later = fillerText before ++ (target.text ++ (value.characters ++
            (fillerText after ++ ',' :: (others.characters ++ '\x7d' :: later)))) := by
        simp [WrittenFields.characters]
      have counted :
          line + (WrittenFields.more before target value after others).characters.count '\n' =
            line + (fillerText before).count '\n' + value.characters.count '\n' +
              (fillerText after).count '\n' + others.characters.count '\n' := by
        simp [WrittenFields.characters, count_target]
        omega
      rw [whole, counted, skipFiller_fillerText before (stops_target_append target)]
      exact further.cons (head?_target_append target (by decide)) read

end

/-! ## Tables that exhaust the stack -/

/-- Reading the fields of a table exhausts the stack, there being some. -/
def ExhaustsFields (depth opening : Nat) (cursor : Cursor) : Prop :=
  cursor.rest.head? ≠ some '\x7d' ∧ ∃ last,
    (many (readField (readValueWithin depth) opening) cursor).result =
      .error ⟨.exhausted CallStack.message, last⟩

theorem progressive_readField_within (depth opening : Nat) :
    Progressive (readField (readValueWithin depth) opening) :=
  progressive_readField opening fun read => (readValueWithin_passesSome read).1

/-- A field exhausts the stack with its value. -/
theorem ExhaustsFields.of_value {line last depth opening : Nat} (target : Target)
    {value : WrittenValue}
    (failed : readValueWithin depth ⟨value.characters ++ later, line⟩ =
      .error ⟨.exhausted CallStack.message, last⟩) :
    ExhaustsFields depth opening ⟨target.text ++ (value.characters ++ later), line⟩ := by
  obtain ⟨middle, named, assigned, position⟩ := @readKey_target (value.characters ++ later) line
    target (stops_characters_append value)
  rw [← position] at failed
  exact ⟨head?_target_append target (by decide), last,
    many_result_of_error (progressive_readField_within depth opening)
      (readField_fault named assigned failed)⟩

mutual

/-- A written value with too many tables inside each other exhausts the stack. -/
theorem readValueWithin_exhausted {later : List Char} {line depth : Nat} (value : WrittenValue)
    (deep : depth < value.node.nesting) :
    ∃ last, readValueWithin depth ⟨value.characters ++ later, line⟩ =
      .error ⟨.exhausted CallStack.message, last⟩ := by
  match value, depth with
  | .table fields, 0 =>
      refine ⟨line, ?_⟩
      rw [WrittenValue.characters, List.cons_append, List.cons_append, readValueWithin_zero,
        if_pos List.head?_cons]
      rfl
  | .table fields, depth + 1 =>
      have whole : (WrittenValue.table fields).characters ++ later =
          '\x7b' :: (fields.characters ++ '\x7d' :: later) := by
        simp [WrittenValue.characters]
      obtain ⟨goesOn, last, failed⟩ :=
        @exhaustsFields_characters later line line depth fields (Nat.lt_of_succ_lt_succ deep)
      refine ⟨last, ?_⟩
      rw [whole, readValueWithin_succ, if_pos List.head?_cons, map_eq_error_iff, readTable,
        advance_one_cons rfl, Cursor.peek?, if_neg goesOn]
      exact failed

theorem exhaustsFields_characters {later : List Char} {line opening depth : Nat}
    (fields : WrittenFields) (deep : depth < Node.nestingIn fields.nodes) :
    ExhaustsFields depth opening
      (⟨fields.characters ++ '\x7d' :: later, line⟩ : Cursor).skipFiller := by
  match fields with
  | .last before target value after =>
      have whole : (WrittenFields.last before target value after).characters ++ '\x7d' :: later =
          fillerText before ++ (target.text ++ (value.characters ++
            (fillerText after ++ '\x7d' :: later))) := by
        simp [WrittenFields.characters]
      have deeper : depth < value.node.nesting := by
        simpa [WrittenFields.nodes, Node.nestingIn] using deep
      obtain ⟨last, failed⟩ := @readValueWithin_exhausted (fillerText after ++ '\x7d' :: later)
        (line + (fillerText before).count '\n') depth value deeper
      rw [whole, skipFiller_fillerText before (stops_target_append target)]
      exact .of_value target failed
  | .more before target value after others =>
      have whole : (WrittenFields.more before target value after others).characters ++
          '\x7d' :: later = fillerText before ++ (target.text ++ (value.characters ++
            (fillerText after ++ ',' :: (others.characters ++ '\x7d' :: later)))) := by
        simp [WrittenFields.characters]
      rw [whole, skipFiller_fillerText before (stops_target_append target)]
      by_cases deeper : depth < value.node.nesting
      · obtain ⟨last, failed⟩ := @readValueWithin_exhausted
          (fillerText after ++ ',' :: (others.characters ++ '\x7d' :: later))
          (line + (fillerText before).count '\n') depth value deeper
        exact .of_value target failed
      · -- The value is read, and one of the fields after it exhausts the stack.
        have found := @readValueWithin_characters _
          (fillerText after ++ ',' :: (others.characters ++ '\x7d' :: later))
          (line + (fillerText before).count '\n') depth value (Nat.le_of_not_lt deeper)
          (head?_fillerText_append after rfl (by simp))
        have read := (@readField_written _ _ _ opening _ target value after rfl found).2 rfl
        have rest : depth < Node.nestingIn others.nodes := by
          rw [WrittenFields.nodes, Node.nestingIn] at deep
          omega
        obtain ⟨goesOn, last, failed⟩ := @exhaustsFields_characters later
          (line + (fillerText before).count '\n' + value.characters.count '\n' +
            (fillerText after).count '\n') opening depth others rest
        rw [if_neg goesOn] at read
        refine ⟨head?_target_append target (by decide), last, ?_⟩
        rw [many_result_of_more (progressive_readField_within depth opening) read, failed]
        rfl

end

end VersionCatalog.Document
