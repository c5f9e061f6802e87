import VersionCatalog.Proofs.Document.Readers

/-!
# What is taken with a value

A table reads its values with the reader of values again, one level deeper. What is shown of values
is therefore shown of every depth, by induction on what is left of it.
-/

namespace VersionCatalog.Document

open Text

variable {readNode : Reader Node}

/-- The key of a field comes first, then an equals sign, its value and what separates it. -/
theorem readField_eq (opening : Nat) (cursor : Cursor) :
    readField readNode opening cursor =
      if cursor.rest = [] then .error ⟨.unclosedTable, opening⟩
      else (readKey cursor).bind fun named =>
        if named.2.skipInline.rest.head? = some '=' then
          (readNode (named.2.skipInline.advance 1).skipInline).bind fun found =>
            if found.2.skipFiller.rest.head? = some ',' then
              if (found.2.skipFiller.advance 1).skipFiller.rest.head? = some '\x7d' then
                .ok (.last (named.1, found.1),
                  (found.2.skipFiller.advance 1).skipFiller.advance 1)
              else .ok (.more (named.1, found.1), (found.2.skipFiller.advance 1).skipFiller)
            else if found.2.skipFiller.rest.head? = some '\x7d' then
              .ok (.last (named.1, found.1), found.2.skipFiller.advance 1)
            else if found.2.skipFiller.rest = [] then .error ⟨.unclosedTable, opening⟩
            else .error (found.2.skipFiller.fault (.missingFieldSeparator named.1))
        else .error (named.2.skipInline.fault (.missingFieldEquals named.1)) := by
  simp only [readField, List.isEmpty_iff]
  split
  · rfl
  · cases readKey cursor with
    | error fault => rfl
    | ok named =>
        by_cases assigned : named.2.skipInline.rest.head? = some '='
        · simp only [Except.bind, Cursor.peek?, assigned, ne_eq, not_true_eq_false, if_false,
            if_true]
          cases readNode (named.2.skipInline.advance 1).skipInline with
          | error fault => rfl
          | ok found =>
              simp only
              split
              · next rest separated =>
                  simp only [separated, List.head?_cons, if_true]
                  rfl
              · next rest closed => simp [closed]
              · next ended => simp [ended]
              · next notSeparated notClosed goesOn =>
                  rw [if_neg (head?_ne_of_forall notSeparated),
                    if_neg (head?_ne_of_forall notClosed), if_neg goesOn]
        · simp [Except.bind, Cursor.peek?, assigned]

/-- What may come next in a table: a field, and what separates it from the next. -/
theorem readField_cases {opening : Nat} {cursor after : Cursor} {item : Next (String × Node)}
    (read : readField readNode opening cursor = .ok (item, after)) :
    ∃ name value middle stopped, readKey cursor = .ok (name, middle) ∧
      middle.skipInline.rest.head? = some '=' ∧
      readNode (middle.skipInline.advance 1).skipInline = .ok (value, stopped) ∧
      ((stopped.skipFiller.rest.head? = some '\x7d' ∧ item = .last (name, value) ∧
          after = stopped.skipFiller.advance 1) ∨
        (stopped.skipFiller.rest.head? = some ',' ∧
          (stopped.skipFiller.advance 1).skipFiller.rest.head? = some '\x7d' ∧
          item = .last (name, value) ∧
          after = (stopped.skipFiller.advance 1).skipFiller.advance 1) ∨
        (stopped.skipFiller.rest.head? = some ',' ∧
          (stopped.skipFiller.advance 1).skipFiller.rest.head? ≠ some '\x7d' ∧
          item = .more (name, value) ∧
          after = (stopped.skipFiller.advance 1).skipFiller)) := by
  simp only [readField] at read
  split at read
  · cases read
  · split at read
    · cases read
    · next name middle named =>
        split at read
        · cases read
        · next assigned =>
            split at read
            · cases read
            · next value stopped found =>
                refine ⟨name, value, middle, stopped, named, ?_, found, ?_⟩
                · simpa [Cursor.peek?] using assigned
                · split at read
                  · next rest separated =>
                      split at read
                      · next closed =>
                          cases read
                          exact .inr (.inl ⟨by simp [separated], closed, rfl, rfl⟩)
                      · next open_still =>
                          cases read
                          exact .inr (.inr ⟨by simp [separated], open_still, rfl, rfl⟩)
                  · next rest closed =>
                      cases read
                      exact .inl ⟨by simp [closed], rfl, rfl⟩
                  · cases read
                  · cases read

/-- A key, an equals sign and a value make a field, and what separates it says whether it is the
last. -/
theorem readField_value {opening : Nat} {cursor middle stopped : Cursor} {name : String}
    {value : Node} (named : readKey cursor = .ok (name, middle))
    (assigned : middle.skipInline.rest.head? = some '=')
    (found : readNode (middle.skipInline.advance 1).skipInline = .ok (value, stopped)) :
    (stopped.skipFiller.rest.head? = some '\x7d' →
        readField readNode opening cursor =
          .ok (.last (name, value), stopped.skipFiller.advance 1)) ∧
      (stopped.skipFiller.rest.head? = some ',' →
        readField readNode opening cursor =
          if (stopped.skipFiller.advance 1).skipFiller.rest.head? = some '\x7d' then
            .ok (.last (name, value), (stopped.skipFiller.advance 1).skipFiller.advance 1)
          else .ok (.more (name, value), (stopped.skipFiller.advance 1).skipFiller)) := by
  have goesOn := (readKey_passesSome named).ne_nil
  constructor
  · intro closed
    obtain ⟨rest, closed⟩ := List.head?_eq_some_iff.1 closed
    simp [readField, goesOn, named, Cursor.peek?, assigned, found, closed]
  · intro separated
    obtain ⟨rest, separated⟩ := List.head?_eq_some_iff.1 separated
    simp [readField, goesOn, named, Cursor.peek?, assigned, found, separated]
    rfl

/-- A fault in the value is one of the field. -/
theorem readField_fault {opening : Nat} {cursor middle : Cursor} {name : String} {fault : Fault}
    (named : readKey cursor = .ok (name, middle))
    (assigned : middle.skipInline.rest.head? = some '=')
    (failed : readNode (middle.skipInline.advance 1).skipInline = .error fault) :
    readField readNode opening cursor = .error fault := by
  have goesOn := (readKey_passesSome named).ne_nil
  simp [readField, goesOn, named, Cursor.peek?, assigned, failed]

theorem progressive_readField (opening : Nat)
    (forward : ∀ {cursor after : Cursor} {node : Node},
      readNode cursor = .ok (node, after) → cursor.Passes after) :
    Progressive (readField readNode opening) := by
  apply Progressive.of_passesSome
  intro cursor after item read
  obtain ⟨name, value, middle, stopped, named, _, found, ended⟩ := readField_cases read
  refine (readKey_passesSome named).trans ?_
  refine (Cursor.passes_separator middle).trans ?_
  refine (forward found).trans ((Cursor.passes_skipFiller stopped).trans ?_)
  rcases ended with ⟨_, _, rfl⟩ | ⟨_, _, _, rfl⟩ | ⟨_, _, _, rfl⟩
  · exact Cursor.passes_advance _ 1
  · exact ((Cursor.passes_advance _ 1).trans (Cursor.passes_skipFiller _)).trans
      (Cursor.passes_advance _ 1)
  · exact (Cursor.passes_advance _ 1).trans (Cursor.passes_skipFiller _)

theorem readTable_eq_ok_iff {cursor after : Cursor} {fields : List (String × Node)}
    (forward : ∀ {cursor after : Cursor} {node : Node},
      readNode cursor = .ok (node, after) → cursor.Passes after) :
    readTable readNode cursor = .ok (fields, after) ↔
      ((cursor.advance 1).skipFiller.rest.head? = some '\x7d' ∧ fields = [] ∧
          after = (cursor.advance 1).skipFiller.advance 1) ∨
        ((cursor.advance 1).skipFiller.rest.head? ≠ some '\x7d' ∧
          Reads (readField readNode cursor.line) (cursor.advance 1).skipFiller fields after) := by
  simp only [readTable, Cursor.peek?]
  by_cases closed : (cursor.advance 1).skipFiller.rest.head? = some '\x7d'
  · simp only [closed, if_true, Except.ok.injEq, Prod.mk.injEq, true_and, ne_eq, not_true_eq_false,
      false_and, or_false]
    constructor <;> rintro ⟨rfl, rfl⟩ <;> exact ⟨rfl, rfl⟩
  · simp [closed, many_result_iff (progressive_readField cursor.line forward)]

theorem readTable_passes {cursor after : Cursor} {fields : List (String × Node)}
    (forward : ∀ {cursor after : Cursor} {node : Node},
      readNode cursor = .ok (node, after) → cursor.Passes after)
    (read : readTable readNode cursor = .ok (fields, after)) :
    (cursor.advance 1).Passes after := by
  refine (Cursor.passes_skipFiller _).trans ?_
  rcases (readTable_eq_ok_iff forward).1 read with ⟨_, _, rfl⟩ | ⟨_, reads⟩
  · exact Cursor.passes_advance _ 1
  · exact reads.passes (progressive_readField _ forward)

/-! ## Values that are no tables -/

/-- The first character decides whether a value is an array. -/
theorem readFlat_eq (cursor : Cursor) :
    readFlat cursor =
      if cursor.rest.head? = some '[' then
        (readArray cursor).map fun (items, after) => (.array items, after)
      else (readText cursor).map fun (content, after) => (.text content, after) := by
  rw [readFlat]
  split
  · next rest opened => rw [opened, List.head?_cons, if_pos rfl]
  · next notArray => rw [if_neg (head?_ne_of_forall notArray)]

theorem readFlat_passesSome {cursor after : Cursor} {node : Node}
    (read : readFlat cursor = .ok (node, after)) : cursor.PassesSome after := by
  rw [readFlat_eq] at read
  split at read
  · next array =>
      obtain ⟨⟨items, stopped⟩, found, same⟩ := map_eq_ok_iff.1 read
      cases same
      exact (Cursor.passesSome_advance (Cursor.ne_nil_of_head? array) Nat.one_pos).trans
        (readArray_passes found)
  · obtain ⟨⟨content, stopped⟩, found, same⟩ := map_eq_ok_iff.1 read
    cases same
    exact readText_passesSome found

/-! ## Tables in tables -/

variable [CallStack]

/-- The first character decides whether a value is a table, and the depth whether it is read. -/
theorem readValueWithin_zero (cursor : Cursor) :
    readValueWithin 0 cursor =
      if cursor.rest.head? = some '\x7b' then
        .error (cursor.fault (.exhausted CallStack.message))
      else readFlat cursor := by
  rw [readValueWithin.eq_def]
  split
  · next impossible => cases impossible
  · next rest opened _ => rw [opened, List.head?_cons, if_pos rfl]
  · next deeper notTable =>
      rw [if_neg (head?_ne_of_forall fun rest opened => notTable rest opened rfl)]

theorem readValueWithin_succ (depth : Nat) (cursor : Cursor) :
    readValueWithin (depth + 1) cursor =
      if cursor.rest.head? = some '\x7b' then
        (readTable (readValueWithin depth) cursor).map
          fun (fields, after) => (.table fields, after)
      else readFlat cursor := by
  rw [readValueWithin.eq_def]
  split
  · next rest inside opened same =>
      cases same
      rw [opened, List.head?_cons, if_pos rfl]
  · next impossible => cases impossible
  · next notTable _ =>
      rw [if_neg (head?_ne_of_forall fun rest opened => notTable rest depth opened rfl)]

theorem readValueWithin_passesSome {depth : Nat} {cursor after : Cursor} {node : Node}
    (read : readValueWithin depth cursor = .ok (node, after)) : cursor.PassesSome after := by
  induction depth generalizing cursor after node with
  | zero =>
      rw [readValueWithin_zero] at read
      split at read
      · contradiction
      · exact readFlat_passesSome read
  | succ depth induction =>
      rw [readValueWithin_succ] at read
      split at read
      · next table =>
          obtain ⟨⟨fields, stopped⟩, found, same⟩ := map_eq_ok_iff.1 read
          cases same
          exact (Cursor.passesSome_advance (Cursor.ne_nil_of_head? table) Nat.one_pos).trans
            (readTable_passes (fun read => (induction read).1) found)
      · exact readFlat_passesSome read

theorem readValue_passesSome {cursor after : Cursor} {node : Node}
    (read : readValue cursor = .ok (node, after)) : cursor.PassesSome after :=
  readValueWithin_passesSome read

/-- What begins with no brace is read alike at every depth. -/
theorem readValueWithin_flat {depth : Nat} {cursor : Cursor}
    (notTable : cursor.rest.head? ≠ some '\x7b') :
    readValueWithin depth cursor = readFlat cursor := by
  cases depth with
  | zero => rw [readValueWithin_zero, if_neg notTable]
  | succ depth => rw [readValueWithin_succ, if_neg notTable]

end VersionCatalog.Document
