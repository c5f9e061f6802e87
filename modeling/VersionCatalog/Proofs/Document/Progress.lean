import Mathlib.Data.List.Forall2
import VersionCatalog.Proofs.Document.WalkedCalls

/-!
# Progress of reading

Whatever a text is, reading it never leaves the text and never moves back, and the line of every
position is counted by the line feeds before it. The positions are those of the readers: there is
one wherever a call between them begins or ends. Since headers, keys and values take a character at
least, every repetition comes to its end by itself: a repetition without a bound (`Rounds`) takes at
most one round more than the text has characters. Main statement: `readsForward_dropMark`.
-/

namespace VersionCatalog.Document

/-! ## Positions in a text -/

/-- A position comes after a number of characters of a text. -/
structure StandsAt (text : List Char) (offset : Nat) (cursor : Cursor) : Prop where
  within : offset ≤ text.length
  rest_eq : cursor.rest = text.drop offset
  line_eq : cursor.line = 1 + (text.take offset).count '\n'

section StandsAt

variable {text : List Char} {offset : Nat} {before after : Cursor}

theorem standsAt_start (text : List Char) : StandsAt text 0 (Cursor.start text) :=
  ⟨Nat.zero_le _, rfl, rfl⟩

/-- A position that comes after one in a text stands in the text too. -/
theorem StandsAt.exists_of_passes (stands : StandsAt text offset before)
    (passes : before.Passes after) :
    ∃ count, StandsAt text (offset + count) after ∧
      before.rest.length = count + after.rest.length := by
  obtain ⟨passed, whole, counted⟩ := passes
  have behind : text.drop offset = passed ++ after.rest := stands.rest_eq.symm.trans whole
  have lengths := congrArg List.length behind
  rw [List.length_drop, List.length_append] at lengths
  have within := stands.within
  refine ⟨passed.length, ⟨by omega, ?_, ?_⟩, by rw [whole, List.length_append]⟩
  · rw [← List.drop_drop, behind, List.drop_left]
  · rw [List.take_add, behind, List.take_left, List.count_append, counted, stands.line_eq,
      Nat.add_assoc]

/-- The positions of a course stand in the text one after the other. -/
theorem Course.exists_offsets {first last : Cursor} {places : List Cursor}
    (course : Course first places last) (stands : StandsAt text offset first) :
    ∃ offsets, List.Forall₂ (StandsAt text) (offset :: offsets) (first :: places) ∧
      (offset :: offsets).Pairwise (· ≤ ·) := by
  induction course generalizing offset with
  | stay cursor => exact ⟨[], .cons stands .nil, List.pairwise_singleton _ _⟩
  | move moved _ induction =>
      obtain ⟨count, stands_next, _⟩ := stands.exists_of_passes moved.passes
      obtain ⟨offsets, placed, ordered⟩ := induction stands_next
      refine ⟨(offset + count) :: offsets, .cons stands placed, ordered.cons ?_⟩
      intro later member
      have first_le : offset ≤ offset + count := Nat.le_add_right offset count
      rcases List.mem_cons.1 member with rfl | further
      · exact first_le
      · exact Nat.le_trans first_le (List.rel_of_pairwise_cons ordered further)

end StandsAt

/-- A reader that succeeds in a text ends at a later position of the text. -/
def Advances {α : Type} (text : List Char) (reader : Reader α) : Prop :=
  ∀ {offset : Nat} {before after : Cursor} {value : α}, StandsAt text offset before →
    reader before = .ok (value, after) → ∃ later, offset < later ∧ StandsAt text later after

theorem advances_of_passesSome {α : Type} {text : List Char} {reader : Reader α}
    (taken : ∀ {before after : Cursor} {value : α},
      reader before = .ok (value, after) → before.PassesSome after) : Advances text reader := by
  intro offset before after value stands read
  obtain ⟨passes, shorter⟩ := taken read
  obtain ⟨count, stands_after, lengths⟩ := stands.exists_of_passes passes
  exact ⟨offset + count, by omega, stands_after⟩

/-! ## Repetition without a bound -/

/-- Reading items one after the other ends by itself after a number of rounds. -/
inductive Rounds {α : Type} (next : Reader (Next α)) : Nat → Cursor → Items α → Prop where
  /-- There is a fault. -/
  | fault {cursor : Cursor} {fault : Fault} (failed : next cursor = .error fault) :
      Rounds next 1 cursor ⟨[], .error fault⟩
  /-- There is no further item. -/
  | stop {cursor after : Cursor} (read : next cursor = .ok (.stop, after)) :
      Rounds next 1 cursor ⟨[], .ok after⟩
  /-- An item says that it is the last. -/
  | last {cursor after : Cursor} {item : α} (read : next cursor = .ok (.last item, after)) :
      Rounds next 1 cursor ⟨[item], .ok after⟩
  /-- Others are read after an item. -/
  | more {count : Nat} {cursor middle : Cursor} {item : α} {others : Items α}
      (read : next cursor = .ok (.more item, middle)) (rounds : Rounds next count middle others) :
      Rounds next (count + 1) cursor (others.cons item)

/-- Every round but the last takes a character, so that there are no more rounds than that. -/
theorem exists_rounds {α : Type} {next : Reader (Next α)} (progressive : Progressive next)
    (cursor : Cursor) :
    ∃ count ≤ cursor.rest.length + 1, Rounds next count cursor (many next cursor) := by
  generalize bound : cursor.rest.length = length
  induction length using Nat.strongRecOn generalizing cursor with
  | ind length induction =>
      rw [many_eq progressive]
      match read : next cursor with
      | .error fault => exact ⟨1, Nat.le_add_left 1 length, .fault read⟩
      | .ok (.stop, after) => exact ⟨1, Nat.le_add_left 1 length, .stop read⟩
      | .ok (.last item, after) => exact ⟨1, Nat.le_add_left 1 length, .last read⟩
      | .ok (.more item, after) =>
          have shorter := progressive.shortens read
          obtain ⟨count, bounded, rounds⟩ := induction _ (by omega) after rfl
          exact ⟨count + 1, by omega, .more read rounds⟩

section Spans

variable (text : List Char)

/-- The characters of a span are passed in no more rounds than there are characters. -/
theorem length_placesWhile_le (taken : Char → Bool) (line : Nat) :
    (Walk.placesWhile taken line text).length ≤ text.length := by
  induction text with
  | nil => exact Nat.le_refl 0
  | cons char text induction =>
      rw [Walk.placesWhile]
      split
      · exact Nat.succ_le_succ induction
      · exact Nat.zero_le _

/-- So is filler. -/
theorem length_fillerPlaces_le (inComment : Bool) (line : Nat) :
    (Walk.fillerPlaces inComment line text).length ≤ text.length := by
  induction text generalizing inComment line with
  | nil => exact Nat.le_refl 0
  | cons char text induction =>
      rw [Walk.fillerPlaces]
      split
      · exact Nat.succ_le_succ (induction false _)
      · split
        · exact Nat.le_succ_of_le (induction true line)
        · split
          · exact Nat.succ_le_succ (induction false line)
          · split
            · exact Nat.succ_le_succ (induction true line)
            · exact Nat.zero_le _

end Spans

/-! ## Reading forward -/

variable [CallStack]

/-- The positions that reading a text comes to, in order, whether or not it succeeds. Reading goes
on after a section that is declared again, so that no position is missing. -/
def positions (text : List Char) : List Cursor :=
  Cursor.start text :: Walk.lines.places (Cursor.start text)

/-- Reading a text moves forward in it. -/
structure ReadsForward (text : List Char) : Prop where
  /-- The positions are those of the reader of lines. -/
  walked : Walk.lines.read (Cursor.start text) = (readLines text).result
  /-- Every position is a move after the one before, and reading ends at the last. -/
  course : ∃ last, Course (Cursor.start text) (Walk.lines.places (Cursor.start text)) last ∧
    ∀ after, (readLines text).ending = .ok after → after = last
  /-- Every position stands in the text, and none before an earlier one. -/
  placed : ∃ offsets, List.Forall₂ (StandsAt text) offsets (positions text) ∧
    offsets.Pairwise (· ≤ ·)
  /-- From the first line on, there is a position wherever a stage of reading begins or ends. -/
  stages {stage : Stage} {cursor : Cursor} (called : stage.Called text cursor) :
    cursor ∈ positions text ∧ ∀ {value : stage.Item} {after : Cursor},
      stage.read cursor = .ok (value, after) → after ∈ positions text
  header : Advances text readHeader
  key : Advances text readKey
  value : Advances text readValue
  /-- The values of fields are read like this. -/
  nestedValue (depth : Nat) : Advances text (readValueWithin depth)
  /-- The items of arrays are read like this. -/
  itemValue : Advances text readText
  /-- A repetition ends by itself, from any position with no more characters left than the text
  has. Positions in the text are such, and the start of a text of several lines in it. -/
  rounds (loop : Loop) (cursor : Cursor) (within : cursor.rest.length ≤ text.length) :
    ∃ count ≤ text.length + 1, Rounds loop.next count cursor (many loop.next cursor)
  /-- Spans are passed one character after the other. -/
  spans (taken : Char → Bool) (cursor : Cursor) (within : cursor.rest.length ≤ text.length) :
    (Walk.placesWhile taken cursor.line cursor.rest).length ≤ text.length
  /-- So is filler, but for its comments, which are passed at once. -/
  filler (cursor : Cursor) (within : cursor.rest.length ≤ text.length) :
    (Walk.skipFiller.places cursor).length ≤ text.length

/-- Reading any text moves forward in it, after the mark that may precede it. -/
theorem readsForward_dropMark (text : String) : ReadsForward (dropMark text.toList) := by
  have walked := Walk.read_lines (dropMark text.toList)
  obtain ⟨last, course, ended⟩ := Walk.lines.course (Cursor.start (dropMark text.toList))
  obtain ⟨offsets, placed, ordered⟩ := course.exists_offsets (standsAt_start _)
  exact {
    walked := walked
    course := by
      refine ⟨last, course, fun after stopped => ?_⟩
      rw [Items.result, stopped] at walked
      exact ended walked
    placed := ⟨_, placed, ordered⟩
    stages := Stage.Called.mem_trail
    header := advances_of_passesSome readHeader_passesSome
    key := advances_of_passesSome readKey_passesSome
    value := advances_of_passesSome readValue_passesSome
    nestedValue := fun depth => advances_of_passesSome readValueWithin_passesSome
    itemValue := advances_of_passesSome readText_passesSome
    rounds := by
      intro loop cursor within
      obtain ⟨count, bounded, rounds⟩ := exists_rounds loop.progressive_next cursor
      exact ⟨count, by omega, rounds⟩
    spans := fun taken cursor within =>
      Nat.le_trans (length_placesWhile_le cursor.rest taken cursor.line) within
    filler := fun cursor within =>
      Nat.le_trans (length_fillerPlaces_le cursor.rest false cursor.line) within }

/-- A header is passed at once, its line is ended, and no key follows. -/
example : positions "[a]\n!".toList =
    [⟨"[a]\n!".toList, 1⟩, ⟨"a]\n!".toList, 1⟩, ⟨"\n!".toList, 1⟩, ⟨"!".toList, 2⟩] := by
  cbv

end VersionCatalog.Document
