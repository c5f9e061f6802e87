import VersionCatalog.Document.Basic
import VersionCatalog.Proofs.Text.Span

/-!
# Passing over a text

Reading moves forward only. `Cursor.Passes` says that a position comes later in the same text, the
line feeds in between being counted, and `Cursor.PassesSome` that it comes strictly later. Since
every round of `many` but the last takes a character, the rounds never run out: `many_eq` unrolls
the repetition, and `many_result_iff` says by `Reads` which items it gives. `Reaches` says where the
repetition comes to on the way, whether or not it succeeds.
-/

namespace VersionCatalog.Document

theorem map_eq_ok_iff {ε α β : Type} {transform : α → β} {attempt : Except ε α} {result : β} :
    attempt.map transform = .ok result ↔
      ∃ value, attempt = .ok value ∧ transform value = result := by
  cases attempt <;> simp [Except.map]

theorem map_eq_error_iff {ε α β : Type} {transform : α → β} {attempt : Except ε α} {fault : ε} :
    attempt.map transform = .error fault ↔ attempt = .error fault := by
  cases attempt <;> simp [Except.map]

/-! ## Positions -/

/-- A character that begins filler. -/
def isFillerChar (char : Char) : Bool :=
  char == '\n' || isInlineBlank char || char == '\r' || char == '#'

namespace Cursor

/-- The second position comes after the first: the text between them is passed, and the line feeds
in it are counted. -/
def Passes (before after : Cursor) : Prop :=
  ∃ passed, before.rest = passed ++ after.rest ∧
    after.line = before.line + passed.count '\n'

/-- The second position comes after the first by a character at least. -/
def PassesSome (before after : Cursor) : Prop :=
  before.Passes after ∧ after.rest.length < before.rest.length

theorem Passes.refl (cursor : Cursor) : cursor.Passes cursor :=
  ⟨[], rfl, rfl⟩

theorem Passes.trans {before middle after : Cursor} (first : before.Passes middle)
    (second : middle.Passes after) : before.Passes after := by
  obtain ⟨front, frontRest, frontLine⟩ := first
  obtain ⟨back, backRest, backLine⟩ := second
  refine ⟨front ++ back, ?_, ?_⟩
  · rw [frontRest, backRest, List.append_assoc]
  · rw [backLine, frontLine, List.count_append, Nat.add_assoc]

theorem Passes.length_le {before after : Cursor} (passes : before.Passes after) :
    after.rest.length ≤ before.rest.length := by
  obtain ⟨passed, rest, _⟩ := passes
  rw [rest, List.length_append]
  omega

/-- A text that is passed to its end is passed with all its line feeds. -/
theorem Passes.line_eq {before after : Cursor} (passes : before.Passes after)
    (ended : after.rest = []) : after.line = before.line + before.rest.count '\n' := by
  obtain ⟨passed, whole, counted⟩ := passes
  rw [whole, ended, List.append_nil]
  exact counted

theorem PassesSome.ne_nil {before after : Cursor} (passes : before.PassesSome after) :
    before.rest ≠ [] := by
  intro empty
  have shorter := passes.2
  simp [empty] at shorter

/-- Where a character comes next, something is left. -/
theorem ne_nil_of_head? {cursor : Cursor} {char : Char} (next : cursor.rest.head? = some char) :
    cursor.rest ≠ [] := by
  intro empty
  simp [empty] at next

theorem PassesSome.trans {before middle after : Cursor} (first : before.PassesSome middle)
    (second : middle.Passes after) : before.PassesSome after :=
  ⟨first.1.trans second, Nat.lt_of_le_of_lt second.length_le first.2⟩

theorem Passes.trans_some {before middle after : Cursor} (first : before.Passes middle)
    (second : middle.PassesSome after) : before.PassesSome after :=
  ⟨first.trans second.1, Nat.lt_of_lt_of_le second.2 first.length_le⟩

/-! ## Characters of one line -/

/-- Text without line feeds is passed on the same line. -/
theorem passes_of_append {before after : Cursor} (passed : List Char)
    (rest : before.rest = passed ++ after.rest) (line : after.line = before.line)
    (oneLine : '\n' ∉ passed) : before.Passes after :=
  ⟨passed, rest, by rw [line, List.count_eq_zero_of_not_mem oneLine, Nat.add_zero]⟩

theorem passes_advance (cursor : Cursor) (count : Nat) : cursor.Passes (cursor.advance count) :=
  ⟨cursor.rest.take count, (List.take_append_drop count cursor.rest).symm, rfl⟩

theorem passesSome_advance {cursor : Cursor} {count : Nat} (some_left : cursor.rest ≠ [])
    (some_taken : 0 < count) : cursor.PassesSome (cursor.advance count) := by
  refine ⟨passes_advance cursor count, ?_⟩
  have left := List.length_pos_iff.2 some_left
  simp only [advance, List.length_drop]
  omega

theorem notMem_takeWhile {taken : Char → Bool} (stops : taken '\n' = false) (text : List Char) :
    '\n' ∉ text.takeWhile taken := by
  intro member
  have kept := Text.forall_mem_takeWhile member
  simp [stops] at kept

theorem passes_skipInline (cursor : Cursor) : cursor.Passes cursor.skipInline :=
  passes_of_append _ (List.takeWhile_append_dropWhile (p := isInlineBlank)).symm rfl
    (notMem_takeWhile rfl _)

theorem passes_skipComment (cursor : Cursor) : cursor.Passes cursor.skipComment := by
  unfold skipComment
  split
  · next rest opened =>
      have whole := List.takeWhile_append_dropWhile (p := (· != '\n')) (l := rest)
      refine passes_of_append ('#' :: rest.takeWhile (· != '\n')) ?_ rfl ?_
      · rw [opened, List.cons_append, whole]
      · simp [notMem_takeWhile]
  · exact .refl cursor

theorem passes_skipFillerFrom (inComment : Bool) (line : Nat) (text : List Char) :
    (⟨text, line⟩ : Cursor).Passes (skipFillerFrom inComment line text) := by
  induction text generalizing inComment line with
  | nil => exact .refl _
  | cons char text induction =>
      simp only [skipFillerFrom]
      split
      · next feed =>
          have passed : (⟨char :: text, line⟩ : Cursor).Passes ⟨text, line + 1⟩ :=
            ⟨['\n'], by simp [feed], by simp⟩
          exact passed.trans (induction false _)
      · next same =>
          have passed : (⟨char :: text, line⟩ : Cursor).Passes ⟨text, line⟩ :=
            passes_of_append [char] rfl rfl (by simpa using Ne.symm same)
          split
          · exact passed.trans (induction inComment line)
          · split
            · exact passed.trans (induction true line)
            · exact .refl _

theorem passes_skipFiller (cursor : Cursor) : cursor.Passes cursor.skipFiller :=
  passes_skipFillerFrom false cursor.line cursor.rest

theorem stops_skipFillerFrom (inComment : Bool) (line : Nat) (text : List Char) :
    Text.Stops isFillerChar (skipFillerFrom inComment line text).rest := by
  induction text generalizing inComment line with
  | nil => exact Text.stops_nil
  | cons char text induction =>
      simp only [skipFillerFrom]
      split
      · exact induction false _
      · next same =>
          split
          · exact induction inComment line
          · next kept =>
              split
              · exact induction true line
              · next other =>
                  rw [Text.stops_cons_iff]
                  simp only [Bool.or_eq_true, not_or, Bool.not_eq_true] at kept
                  simp [isFillerChar, same, kept, other]

theorem stops_skipFiller (cursor : Cursor) : Text.Stops isFillerChar cursor.skipFiller.rest :=
  stops_skipFillerFrom false cursor.line cursor.rest

theorem skipFiller_of_stops {cursor : Cursor} (stops : Text.Stops isFillerChar cursor.rest) :
    cursor.skipFiller = cursor := by
  obtain ⟨text, line⟩ := cursor
  cases text with
  | nil => rfl
  | cons char text =>
      rw [Text.stops_cons_iff] at stops
      simp only [isFillerChar, Bool.or_eq_false_iff, beq_eq_false_iff_ne] at stops
      simp [skipFiller, skipFillerFrom, stops]

theorem passes_skipReturn (cursor : Cursor) : cursor.Passes cursor.skipReturn := by
  unfold skipReturn
  split
  · next rest opened => exact passes_of_append ['\r'] opened rfl (by simp)
  · exact .refl cursor

/-- The blanks around a character are passed with it. -/
theorem passes_separator (cursor : Cursor) :
    cursor.Passes (cursor.skipInline.advance 1).skipInline :=
  (passes_skipInline cursor).trans ((passes_advance _ 1).trans (passes_skipInline _))

/-- Blanks, a comment and a carriage return may come before the end of a line. -/
theorem passes_lineEnd (cursor : Cursor) :
    cursor.Passes cursor.skipInline.skipComment.skipReturn :=
  ((passes_skipInline cursor).trans (passes_skipComment _)).trans (passes_skipReturn _)

theorem passes_finishLine {cursor after : Cursor} {content : LineContent}
    (finished : cursor.finishLine content = .ok after) : cursor.Passes after := by
  refine (passes_lineEnd cursor).trans ?_
  simp only [finishLine] at finished
  split at finished
  · cases finished
    exact .refl _
  · next rest opened =>
      cases finished
      exact ⟨['\n'], by simp [opened], by simp⟩
  · cases finished

end Cursor

/-! ## Characters of one line -/

/-- Text without line feeds is passed on the same line. -/
theorem advance_length {cursor : Cursor} {front rest : List Char}
    (whole : cursor.rest = front ++ rest) (oneLine : '\n' ∉ front) :
    cursor.advance front.length = ⟨rest, cursor.line⟩ := by
  rw [Cursor.advance, whole, List.drop_left, List.take_left,
    List.count_eq_zero_of_not_mem oneLine, Nat.add_zero]

/-- A character that is no line feed is passed on the same line. -/
theorem advance_one_cons {char : Char} {later : List Char} {line : Nat}
    (notFeed : (char == '\n') = false) :
    (⟨char :: later, line⟩ : Cursor).advance 1 = ⟨later, line⟩ :=
  @advance_length ⟨char :: later, line⟩ [char] later rfl
    (by simpa using Ne.symm (beq_eq_false_iff_ne.1 notFeed))

section OneLine

variable {cursor : Cursor} {rest : List Char} {taken : Char → Bool}

/-- A run of characters that are no line feeds is advanced over on its line. -/
theorem advance_takeWhile (oneLine : taken '\n' = false) :
    cursor.advance (cursor.rest.takeWhile taken).length =
      ⟨cursor.rest.dropWhile taken, cursor.line⟩ :=
  advance_length List.takeWhile_append_dropWhile.symm (Cursor.notMem_takeWhile oneLine cursor.rest)

/-- So is the character that ends the run. -/
theorem advance_takeWhile_succ {closing : Char} (oneLine : taken '\n' = false)
    (plain : closing ≠ '\n')
    (closed : cursor.rest.drop (cursor.rest.takeWhile taken).length = closing :: rest) :
    cursor.advance ((cursor.rest.takeWhile taken).length + 1) = ⟨rest, cursor.line⟩ := by
  have whole : cursor.rest = (cursor.rest.takeWhile taken ++ [closing]) ++ rest := by
    rw [List.append_assoc, List.singleton_append, ← closed, Text.drop_length_takeWhile,
      List.takeWhile_append_dropWhile]
  have unbroken : '\n' ∉ cursor.rest.takeWhile taken ++ [closing] := by
    simp [Cursor.notMem_takeWhile oneLine, plain.symm]
  simpa using advance_length whole unbroken

end OneLine

/-! ## Repetition -/

/-- A reader of items moves forward, and takes a character before a further item. -/
structure Progressive {α : Type} (next : Reader (Next α)) : Prop where
  /-- Reading moves forward. -/
  passes {cursor after : Cursor} {item : Next α} (read : next cursor = .ok (item, after)) :
    cursor.Passes after
  /-- A character is taken with every item that is not the last. -/
  shortens {cursor after : Cursor} {item : α} (read : next cursor = .ok (.more item, after)) :
    after.rest.length < cursor.rest.length

theorem Progressive.of_passesSome {α : Type} {next : Reader (Next α)}
    (taken : ∀ {cursor after : Cursor} {item : Next α},
      next cursor = .ok (item, after) → cursor.PassesSome after) : Progressive next :=
  ⟨fun read => (taken read).1, fun read => (taken read).2⟩

/-- The items that are read one after the other from a position, and the position after them. -/
inductive Reads {α : Type} (next : Reader (Next α)) : Cursor → List α → Cursor → Prop where
  /-- There is no further item. -/
  | stop {cursor after : Cursor} (read : next cursor = .ok (.stop, after)) :
      Reads next cursor [] after
  /-- An item says that it is the last. -/
  | last {cursor after : Cursor} {item : α} (read : next cursor = .ok (.last item, after)) :
      Reads next cursor [item] after
  /-- Others follow an item. -/
  | more {cursor middle after : Cursor} {item : α} {items : List α}
      (read : next cursor = .ok (.more item, middle)) (others : Reads next middle items after) :
      Reads next cursor (item :: items) after

/-- The positions that reading items one after the other comes to. -/
inductive Reaches {α : Type} (next : Reader (Next α)) (start : Cursor) : Cursor → Prop where
  /-- Reading begins at the start. -/
  | start : Reaches next start start
  /-- Reading goes on after an item that is not the last. -/
  | more {cursor after : Cursor} {item : α} (reached : Reaches next start cursor)
      (read : next cursor = .ok (.more item, after)) : Reaches next start after

variable {α : Type} {next : Reader (Next α)}

theorem Reads.passes (progressive : Progressive next) {cursor after : Cursor} {items : List α}
    (reads : Reads next cursor items after) : cursor.Passes after := by
  induction reads with
  | stop read => exact progressive.passes read
  | last read => exact progressive.passes read
  | more read _ induction => exact (progressive.passes read).trans induction

/-- Rounds beyond the characters that are left make no difference. -/
theorem manyWithin_eq (progressive : Progressive next) {left right : List Char} {cursor : Cursor}
    (leftEnough : cursor.rest.length ≤ left.length)
    (rightEnough : cursor.rest.length ≤ right.length) :
    manyWithin next left cursor = manyWithin next right cursor := by
  induction left generalizing right cursor with
  | nil =>
      rw [manyWithin, manyWithin]
      split
      · rfl
      · rfl
      · rfl
      · next item after read =>
          have shorter := progressive.shortens read
          simp only [List.length_nil] at leftEnough
          omega
  | cons char left induction =>
      rw [manyWithin, manyWithin]
      split
      · rfl
      · rfl
      · rfl
      · next item after read =>
          have shorter := progressive.shortens read
          cases right with
          | nil =>
              simp only [List.length_nil] at rightEnough
              omega
          | cons other right =>
              simp only [List.length_cons] at leftEnough rightEnough
              exact congrArg (Items.cons item) (induction (by omega) (by omega))

/-- Reading items begins with one of them and goes on after it. -/
theorem many_eq (progressive : Progressive next) (cursor : Cursor) :
    many next cursor =
      match next cursor with
      | .error fault => ⟨[], .error fault⟩
      | .ok (.stop, after) => ⟨[], .ok after⟩
      | .ok (.last item, after) => ⟨[item], .ok after⟩
      | .ok (.more item, after) => (many next after).cons item := by
  conv => lhs; unfold many manyWithin
  match read : next cursor with
  | .error fault => rfl
  | .ok (.stop, after) => rfl
  | .ok (.last item, after) => rfl
  | .ok (.more item, after) =>
      have shorter := progressive.shortens read
      cases rest : cursor.rest with
      | nil => simp [rest] at shorter
      | cons char rounds =>
          rw [rest, List.length_cons] at shorter
          exact congrArg (Items.cons item)
            (manyWithin_eq progressive (by omega) (Nat.le_refl _))

/-- Reading items ends as it does from every position that it comes to. -/
theorem Reaches.ending_eq (progressive : Progressive next) {start cursor : Cursor}
    (reached : Reaches next start cursor) :
    (many next start).ending = (many next cursor).ending := by
  induction reached with
  | start => rfl
  | more _ read induction =>
      rw [induction, many_eq progressive, read]
      rfl

theorem Reaches.passes (progressive : Progressive next) {start cursor : Cursor}
    (reached : Reaches next start cursor) : start.Passes cursor := by
  induction reached with
  | start => exact .refl start
  | more _ read induction => exact induction.trans (progressive.passes read)

/-- What is come to from after an item is come to from before it. -/
theorem Reaches.of_more {cursor middle reached : Cursor} {item : α}
    (read : next cursor = .ok (.more item, middle)) (others : Reaches next middle reached) :
    Reaches next cursor reached := by
  induction others with
  | start => exact .more .start read
  | more _ further induction => exact .more induction further

/-- A fault at a position that reading comes to is the fault of the whole. -/
theorem Reaches.result_eq_error (progressive : Progressive next) {start cursor : Cursor}
    {fault : Fault} (reached : Reaches next start cursor) (failed : next cursor = .error fault) :
    (many next start).result = .error fault := by
  have ending := reached.ending_eq progressive
  rw [many_eq progressive cursor, failed] at ending
  rw [Items.result, ending]
  rfl

@[simp] theorem result_cons (item : α) (others : Items α) :
    (others.cons item).result =
      others.result.map fun (items, after) => (item :: items, after) := by
  cases others with
  | mk items ending => cases ending <;> rfl

theorem many_result_of_error (progressive : Progressive next) {cursor : Cursor} {fault : Fault}
    (failed : next cursor = .error fault) : (many next cursor).result = .error fault :=
  Reaches.start.result_eq_error progressive failed

theorem many_result_of_more (progressive : Progressive next) {cursor after : Cursor} {item : α}
    (read : next cursor = .ok (.more item, after)) :
    (many next cursor).result =
      (many next after).result.map fun (items, after) => (item :: items, after) := by
  rw [many_eq progressive, read, ← result_cons]

/-- A fault of repetition is met at a position further on. -/
theorem exists_of_many_error (progressive : Progressive next)
    {cursor : Cursor} {fault : Fault} (failed : (many next cursor).result = .error fault) :
    ∃ reached, cursor.Passes reached ∧ next reached = .error fault := by
  generalize bound : cursor.rest.length = length
  induction length using Nat.strongRecOn generalizing cursor with
  | ind length induction =>
      rw [many_eq progressive] at failed
      split at failed
      · next met =>
          cases failed
          exact ⟨cursor, .refl cursor, met⟩
      · cases failed
      · cases failed
      · next item middle read =>
          rw [result_cons, map_eq_error_iff] at failed
          have shorter := progressive.shortens read
          obtain ⟨reached, passes, met⟩ := induction _ (by omega) failed rfl
          exact ⟨reached, (progressive.passes read).trans passes, met⟩

/-- What repetition gives, said without its rounds. -/
theorem many_result_iff (progressive : Progressive next) {cursor after : Cursor}
    {items : List α} :
    (many next cursor).result = .ok (items, after) ↔ Reads next cursor items after := by
  constructor
  · intro found
    generalize bound : cursor.rest.length = length
    induction length using Nat.strongRecOn generalizing cursor items with
    | ind length induction =>
        rw [many_eq progressive] at found
        split at found
        · simp [Items.result, Except.map] at found
        · next stopped read =>
            simp only [Items.result, Except.map, Except.ok.injEq, Prod.mk.injEq] at found
            obtain ⟨rfl, rfl⟩ := found
            exact .stop read
        · next item stopped read =>
            simp only [Items.result, Except.map, Except.ok.injEq, Prod.mk.injEq] at found
            obtain ⟨rfl, rfl⟩ := found
            exact .last read
        · next item middle read =>
            rw [result_cons, map_eq_ok_iff] at found
            obtain ⟨⟨others, final⟩, found, same⟩ := found
            simp only [Prod.mk.injEq] at same
            obtain ⟨rfl, rfl⟩ := same
            have shorter := progressive.shortens read
            exact .more read (induction _ (by omega) found rfl)
  · intro reads
    induction reads with
    | stop read => rw [many_eq progressive, read]; rfl
    | last read => rw [many_eq progressive, read]; rfl
    | more read _ induction =>
        rw [many_eq progressive, read]
        simp only [result_cons, induction]
        rfl

end VersionCatalog.Document
