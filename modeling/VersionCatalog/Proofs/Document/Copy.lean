import VersionCatalog.Proofs.Document.Lines

/-!
# Copies of a text

A copy of a text has the same characters, but it may end its lines with a carriage return too, and
it may stand below further lines. Where nothing in the text depends on how lines end, every reader
does the same on the copy as on the text: it finds the same, or it meets the same fault further
down. Only the escapes between three double quotes are reported for a line that is counted from
these quotes, so that such a fault stays where it was.
-/

namespace VersionCatalog.Document

open Text

/-- What ends a line. -/
inductive LineEnd where
  | feed
  /-- A carriage return before the line feed. -/
  | returnFeed
deriving DecidableEq

def LineEnd.text : LineEnd → List Char
  | feed => ['\n']
  | returnFeed => ['\r', '\n']

/-- A way to copy texts. -/
structure Copy where
  /-- What ends the lines of the copy. -/
  ending : LineEnd
  /-- How many lines stand before the copy. -/
  lines : Nat

/-- Nothing in a text depends on how its lines end: neither carriage returns nor escapes nor texts
of several lines occur. -/
structure IsPlain (text : List Char) : Prop where
  noReturn : '\r' ∉ text
  noEscape : '\\' ∉ text
  /-- Three quotes of a kind in a row would open a text of several lines. -/
  noLongText : ∀ quote ∈ ['"', '\''], ¬[quote, quote, quote] <:+: text

namespace Copy

def text (copy : Copy) (original : List Char) : List Char :=
  original.flatMap fun char => if char = '\n' then copy.ending.text else [char]

/-- The position in the copy of a text that a position in the text belongs to. -/
def cursor (copy : Copy) (original : Cursor) : Cursor :=
  ⟨copy.text original.rest, original.line + copy.lines⟩

/-- The lines of a text may end as they do in the copy. -/
def Suits (copy : Copy) (original : List Char) : Prop :=
  copy.ending = .returnFeed → IsPlain original

/-- What is reported for the copy of a text where a fault of the text is met. The lines of some
faults may be counted `apart`. -/
inductive Reports (copy : Copy) (apart : Fault → Prop) : Fault → Fault → Prop where
  /-- The fault is met further down. -/
  | moved (cause : Cause) (line : Nat) :
      Reports copy apart ⟨cause, line⟩ ⟨cause, line + copy.lines⟩
  /-- A carriage return comes first where a line feed stands in place of a key. -/
  | returned (ending : copy.ending = .returnFeed) (line : Nat) :
      Reports copy apart ⟨.missingKey (some '\n'), line⟩
        ⟨.missingKey (some '\r'), line + copy.lines⟩
  /-- The line is not counted from the start of the text. -/
  | kept {fault : Fault} (met : apart fault) : Reports copy apart fault fault

/-- A reader does the same on a text and on its copy. What it finds there may hold line numbers, so
that a function says how it changes. -/
inductive Agrees {α β : Type} (copy : Copy) (apart : Fault → Prop) (change : α → β) :
    Except Fault (α × Cursor) → Except Fault (β × Cursor) → Prop where
  | found (value : α) (after : Cursor) :
      Agrees copy apart change (.ok (value, after)) (.ok (change value, copy.cursor after))
  | failed {fault other : Fault} (reports : copy.Reports apart fault other) :
      Agrees copy apart change (.error fault) (.error other)

end Copy

/-- A position where some end of a text is left to be read. -/
def Cursor.Within (cursor : Cursor) (original : List Char) : Prop :=
  cursor.rest <:+ original

variable {copy : Copy} {original : List Char}

/-! ## Copied characters -/

namespace Copy

@[simp]
theorem text_nil : copy.text [] = [] := rfl

theorem text_cons {char : Char} (same : char ≠ '\n') (rest : List Char) :
    copy.text (char :: rest) = char :: copy.text rest := by
  simp [text, same]

theorem text_feed (rest : List Char) :
    copy.text ('\n' :: rest) = copy.ending.text ++ copy.text rest := by
  simp [text]

theorem text_append (front back : List Char) :
    copy.text (front ++ back) = copy.text front ++ copy.text back :=
  List.flatMap_append

/-- Text of one line is copied as it is. -/
theorem text_of_oneLine {front : List Char} (oneLine : '\n' ∉ front) : copy.text front = front := by
  induction front with
  | nil => rfl
  | cons char front induction =>
      simp only [List.mem_cons, not_or] at oneLine
      rw [text_cons (Ne.symm oneLine.1), induction oneLine.2]

theorem text_of_feed (ending : copy.ending = .feed) (original : List Char) :
    copy.text original = original := by
  induction original with
  | nil => rfl
  | cons char rest induction =>
      by_cases feed : char = '\n'
      · rw [feed, text_feed, ending, induction]
        rfl
      · rw [text_cons feed, induction]

@[simp]
theorem text_eq_nil_iff : copy.text original = [] ↔ original = [] := by
  cases original with
  | nil => simp
  | cons char rest =>
      by_cases feed : char = '\n'
      · rw [feed, text_feed]
        cases copy.ending <;> simp [LineEnd.text]
      · simp [text_cons feed]

/-- Apart from line ends, a text and its copy begin with the same character. -/
theorem head?_text_iff {char : Char} (notFeed : char ≠ '\n') (notReturn : char ≠ '\r') :
    (copy.text original).head? = some char ↔ original.head? = some char := by
  cases original with
  | nil => simp
  | cons first rest =>
      by_cases feed : first = '\n'
      · rw [feed, text_feed]
        cases copy.ending <;> simp [LineEnd.text, Ne.symm notFeed, Ne.symm notReturn]
      · simp [text_cons feed]

end Copy

/-- A text is a span and what ends it: nothing, a line feed, or another character. -/
theorem span_cases (taken : Char → Bool) (stops : taken '\n' = false) (text : List Char) :
    ∃ span, (∀ char ∈ span, taken char = true) ∧ '\n' ∉ span ∧
      (text = span ∨ (∃ rest, text = span ++ '\n' :: rest) ∨
        ∃ char rest, char ≠ '\n' ∧ taken char = false ∧ text = span ++ char :: rest) := by
  refine ⟨text.takeWhile taken, fun _ => forall_mem_takeWhile, Cursor.notMem_takeWhile stops _, ?_⟩
  have whole := List.takeWhile_append_dropWhile (p := taken) (l := text)
  cases left : text.dropWhile taken with
  | nil =>
      rw [left, List.append_nil] at whole
      exact .inl whole.symm
  | cons char rest =>
      have lacks := stops_dropWhile taken text
      rw [left, stops_cons_iff] at lacks
      rw [left] at whole
      by_cases feed : char = '\n'
      · exact .inr (.inl ⟨rest, by rw [← feed, whole]⟩)
      · exact .inr (.inr ⟨char, rest, feed, lacks, whole.symm⟩)

/-- A span that no line end belongs to is the same in the copy. -/
theorem span_copy {taken : Char → Bool} (feed : taken '\n' = false) (carriage : taken '\r' = false)
    (original : List Char) :
    (copy.text original).takeWhile taken = original.takeWhile taken ∧
      (copy.text original).dropWhile taken = copy.text (original.dropWhile taken) := by
  have whole := List.takeWhile_append_dropWhile (p := taken) (l := original)
  have stops : Stops taken (copy.text (original.dropWhile taken)) := by
    have lacks := stops_dropWhile taken original
    cases left : original.dropWhile taken with
    | nil => exact stops_nil
    | cons char rest =>
        rw [left, stops_cons_iff] at lacks
        by_cases newline : char = '\n'
        · rw [newline, Copy.text_feed]
          cases copy.ending with
          | feed => exact stops_cons feed
          | returnFeed => exact stops_cons carriage
        · rw [Copy.text_cons newline]
          exact stops_cons lacks
  have copied : copy.text original =
      original.takeWhile taken ++ copy.text (original.dropWhile taken) := by
    conv => lhs; rw [← whole, Copy.text_append]
    rw [Copy.text_of_oneLine (Cursor.notMem_takeWhile feed _)]
  rw [copied]
  exact ⟨takeWhile_of_stops (fun _ => forall_mem_takeWhile) stops,
    dropWhile_of_stops (fun _ => forall_mem_takeWhile) stops⟩

/-- A character on the line before a closing one. -/
def isBefore (closing char : Char) : Bool :=
  char != closing && char != '\n'

theorem takeWhile_isBefore (closing : Char) (text : List Char) :
    text.takeWhile (fun char => char != closing && char != '\n') =
      text.takeWhile (isBefore closing) :=
  congrArg (fun taken => text.takeWhile taken) (funext fun _ => rfl)

/-- What comes on a line before a closing character, if that comes on the line at all. Where it does
not come, the span in the copy may have a further carriage return. -/
theorem closing_cases {closing : Char} (notFeed : closing ≠ '\n') (notReturn : closing ≠ '\r')
    (original : List Char) :
    (∃ span rest, original = span ++ closing :: rest ∧
        ∀ char ∈ span, isBefore closing char = true) ∨
      ((original.dropWhile (isBefore closing)).head? ≠ some closing ∧
        ((copy.text original).dropWhile (isBefore closing)).head? ≠ some closing ∧
        ∃ carriage ∈ [[], ['\r']], (copy.text original).takeWhile (isBefore closing) =
          original.takeWhile (isBefore closing) ++ carriage) := by
  have feedStops : isBefore closing '\n' = false := by simp [isBefore]
  obtain ⟨span, inside, oneLine, ended | ⟨rest, ended⟩ | ⟨char, rest, otherLine, closes, ended⟩⟩ :=
    span_cases (isBefore closing) feedStops original
  · have alone := takeWhile_of_stops inside stops_nil
    have nothing := dropWhile_of_stops inside stops_nil
    rw [List.append_nil] at alone nothing
    rw [ended, Copy.text_of_oneLine oneLine, alone, nothing]
    exact .inr ⟨nofun, nofun, [], by simp, by simp⟩
  · have stops : ∀ later, Stops (isBefore closing) ('\n' :: later) := fun _ => stops_cons feedStops
    have other : ∀ later : List Char, ('\n' :: later).head? ≠ some closing := by
      simpa using Ne.symm notFeed
    refine .inr ?_
    rw [ended, Copy.text_append, Copy.text_of_oneLine oneLine, Copy.text_feed]
    rw [takeWhile_of_stops inside (stops _), dropWhile_of_stops inside (stops _)]
    cases copy.ending with
    | feed =>
        simp only [LineEnd.text, List.singleton_append]
        rw [takeWhile_of_stops inside (stops _), dropWhile_of_stops inside (stops _)]
        exact ⟨other _, other _, [], by simp, by simp⟩
    | returnFeed =>
        -- The carriage return belongs to the span in the copy.
        have longer : ∀ char ∈ span ++ ['\r'], isBefore closing char = true := by
          intro char member
          rcases List.mem_append.1 member with within | last
          · exact inside char within
          · rw [List.mem_singleton.1 last]
            simp [isBefore, Ne.symm notReturn]
        have whole : ∀ later, span ++ (LineEnd.returnFeed.text ++ later) =
            (span ++ ['\r']) ++ '\n' :: later := by
          simp [LineEnd.text]
        rw [whole, takeWhile_of_stops longer (stops _), dropWhile_of_stops longer (stops _)]
        exact ⟨other _, other _, ['\r'], by simp, rfl⟩
  · have same : char = closing := by
      simpa [isBefore, otherLine] using closes
    exact .inl ⟨span, rest, by rw [ended, same], inside⟩

/-! ## Positions -/

namespace Cursor

variable {before after : Cursor}

theorem Within.of_passes (within : before.Within original) (passes : before.Passes after) :
    after.Within original := by
  obtain ⟨passed, rest, _⟩ := passes
  refine List.IsSuffix.trans ?_ within
  rw [rest]
  exact List.suffix_append passed after.rest

theorem Within.mem {char : Char} (within : before.Within original) (member : char ∈ before.rest) :
    char ∈ original :=
  List.IsSuffix.subset within member

end Cursor

namespace Copy

@[simp]
theorem cursor_rest (original : Cursor) :
    (copy.cursor original).rest = copy.text original.rest := rfl

/-- Text of one line is passed in the copy as it is in the text. -/
theorem advance_span {position : Cursor} {span rest : List Char}
    (opened : position.rest = span ++ rest) (oneLine : '\n' ∉ span) :
    (copy.cursor position).advance span.length = copy.cursor (position.advance span.length) := by
  simp only [Cursor.advance, cursor, opened, text_append, text_of_oneLine oneLine,
    List.drop_left, List.take_left, List.count_eq_zero_of_not_mem oneLine, Nat.add_zero]

/-- A character that ends no line is passed in the copy as it is in the text. -/
theorem advance_one {position : Cursor} {char : Char} (next : position.rest.head? = some char)
    (notFeed : char ≠ '\n') :
    (copy.cursor position).advance 1 = copy.cursor (position.advance 1) := by
  obtain ⟨rest, opened⟩ := List.head?_eq_some_iff.1 next
  exact @advance_span copy position [char] rest opened (by simpa using Ne.symm notFeed)

/-- Where lines end as they did, characters are passed in the copy as they are in the text. -/
theorem advance_of_feed (ending : copy.ending = .feed) (position : Cursor) (count : Nat) :
    (copy.cursor position).advance count = copy.cursor (position.advance count) := by
  simp only [Cursor.advance, cursor, text_of_feed ending, Nat.add_right_comm]

theorem skipInline (position : Cursor) :
    (copy.cursor position).skipInline = copy.cursor position.skipInline := by
  have copied := (@span_copy copy isInlineBlank rfl rfl position.rest).2
  simp only [Cursor.skipInline, cursor, copied]

theorem skipFillerFrom (inComment : Bool) (line : Nat) (original : List Char) :
    Cursor.skipFillerFrom inComment (line + copy.lines) (copy.text original) =
      copy.cursor (Cursor.skipFillerFrom inComment line original) := by
  induction original generalizing inComment line with
  | nil => rfl
  | cons char rest induction =>
      by_cases feed : char = '\n'
      · have further := induction false (line + 1)
        rw [Nat.add_right_comm] at further
        rw [feed, text_feed]
        cases copy.ending with
        | feed => simpa [LineEnd.text, Cursor.skipFillerFrom] using further
        | returnFeed => simpa [LineEnd.text, Cursor.skipFillerFrom] using further
      · rw [text_cons feed]
        simp only [Cursor.skipFillerFrom, if_neg feed, induction]
        split
        · rfl
        · split
          · rfl
          · simp only [cursor, text_cons feed]

theorem skipFiller (position : Cursor) :
    (copy.cursor position).skipFiller = copy.cursor position.skipFiller :=
  skipFillerFrom false position.line position.rest

/-- Apart from a carriage return before a line feed, a text and its copy begin alike. -/
theorem head?_text (copy : Copy) (original : List Char) :
    (copy.text original).head? = original.head? ∨
      copy.ending = .returnFeed ∧ original.head? = some '\n' ∧
        (copy.text original).head? = some '\r' := by
  cases original with
  | nil => exact .inl rfl
  | cons char rest =>
      by_cases feed : char = '\n'
      · rw [feed, text_feed]
        cases ending : copy.ending with
        | feed => exact .inl rfl
        | returnFeed => exact .inr ⟨rfl, rfl, rfl⟩
      · exact .inl (by rw [text_cons feed]; rfl)

/-- Text without line ends opens the copy exactly when it opens the text. -/
theorem isPrefixOf_text {front : List Char} (noFeed : '\n' ∉ front) (noReturn : '\r' ∉ front)
    (original : List Char) : front.isPrefixOf (copy.text original) = front.isPrefixOf original := by
  induction front generalizing original with
  | nil => simp
  | cons char front induction =>
      simp only [List.mem_cons, not_or] at noFeed noReturn
      cases original with
      | nil => rfl
      | cons first rest =>
          by_cases feed : first = '\n'
          · have feedDiffers : (char == '\n') = false := beq_eq_false_iff_ne.2 (Ne.symm noFeed.1)
            have returnDiffers : (char == '\r') = false :=
              beq_eq_false_iff_ne.2 (Ne.symm noReturn.1)
            rw [feed, text_feed]
            cases copy.ending with
            | feed =>
                simp only [LineEnd.text, List.cons_append, List.isPrefixOf_cons_cons,
                  feedDiffers, Bool.false_and]
            | returnFeed =>
                simp only [LineEnd.text, List.cons_append, List.isPrefixOf_cons_cons,
                  feedDiffers, returnDiffers, Bool.false_and]
          · rw [text_cons feed, List.isPrefixOf_cons_cons, List.isPrefixOf_cons_cons,
              induction noFeed.2 noReturn.2]

/-! ## Steps one after the other -/

variable {α β γ δ : Type} {change : α → β} {further : γ → δ} {apart other : Fault → Prop}
variable {left : Except Fault (α × Cursor)} {right : Except Fault (β × Cursor)}

/-- A fault is reported for the line where it is met. -/
theorem Agrees.fault (cause : Cause) (position : Cursor) :
    copy.Agrees apart change (.error (position.fault cause))
      (.error ((copy.cursor position).fault cause)) :=
  .failed (.moved cause position.line)

/-- A fault is reported for the line where something was opened. -/
theorem Agrees.fault_at (cause : Cause) (line : Nat) :
    copy.Agrees apart change (.error ⟨cause, line⟩) (.error ⟨cause, line + copy.lines⟩) :=
  .failed (.moved cause line)

/-- More faults may be counted apart. -/
theorem Agrees.mono (step : copy.Agrees apart change left right)
    (more : ∀ fault, apart fault → other fault) : copy.Agrees other change left right := by
  cases step with
  | found value after => exact .found value after
  | failed reports =>
      cases reports with
      | moved cause line => exact .failed (.moved cause line)
      | returned ending line => exact .failed (.returned ending line)
      | kept met => exact .failed (.kept (more _ met))

theorem Agrees.found_inv {value : α} {after : Cursor}
    (step : copy.Agrees apart change (.ok (value, after)) right) :
    right = .ok (change value, copy.cursor after) := by
  cases step
  rfl

theorem Agrees.failed_inv {fault : Fault} (step : copy.Agrees apart change (.error fault) right) :
    ∃ other, right = .error other ∧ copy.Reports apart fault other := by
  cases step with
  | failed reports => exact ⟨_, rfl, reports⟩

theorem Agrees.bind (step : copy.Agrees apart change left right)
    {next : α × Cursor → Except Fault (γ × Cursor)} {other : β × Cursor → Except Fault (δ × Cursor)}
    (goesOn : ∀ value after, left = .ok (value, after) →
      copy.Agrees apart further (next (value, after))
        (other (change value, copy.cursor after))) :
    copy.Agrees apart further (left.bind next) (right.bind other) := by
  cases step with
  | found value after => exact goesOn value after rfl
  | failed reports => exact .failed reports

theorem Agrees.map (step : copy.Agrees apart change left right)
    {next : α × Cursor → γ × Cursor} {other : β × Cursor → δ × Cursor}
    (made : ∀ value after, copy.Agrees apart further (.ok (next (value, after)))
      (.ok (other (change value, copy.cursor after)))) :
    copy.Agrees apart further (left.map next) (right.map other) := by
  cases step with
  | found value after => exact made value after
  | failed reports => exact .failed reports

/-- The same condition decides on the text and on its copy. -/
theorem Agrees.ite {condition : Prop} [Decidable condition]
    {yes no : Except Fault (α × Cursor)} {otherYes otherNo : Except Fault (β × Cursor)}
    (holds : condition → copy.Agrees apart change yes otherYes)
    (fails : ¬condition → copy.Agrees apart change no otherNo) :
    copy.Agrees apart change (if condition then yes else no)
      (if condition then otherYes else otherNo) := by
  split
  · next met => exact holds met
  · next unmet => exact fails unmet

/-! ## Repetition -/

end Copy

def Next.map {α β : Type} (change : α → β) : Next α → Next β
  | stop => stop
  | last item => last (change item)
  | more item => more (change item)

/-- Reading items from a text and from its copy gives the same items and ends alike. Where a fault
is met, the copy may have given further items before. -/
inductive Items.Agrees {α β : Type} (copy : Copy) (apart : Fault → Prop) (change : α → β)
    (further : List β → Prop) : Items α → Items β → Prop where
  | finished (items : List α) (after : Cursor) :
      Agrees copy apart change further ⟨items, .ok after⟩
        ⟨items.map change, .ok (copy.cursor after)⟩
  | failed {fault other : Fault} (items : List α) {others : List β} (allowed : further others)
      (reports : copy.Reports apart fault other) :
      Agrees copy apart change further ⟨items, .error fault⟩
        ⟨items.map change ++ others, .error other⟩

section Repetition

variable {α β : Type} {change : α → β} {further : List β → Prop} {apart : Fault → Prop}
variable {left : Reader (Next α)} {right : Reader (Next β)} {cursor : Cursor}

theorem Items.Agrees.cons (item : α) {items : Items α} {others : Items β}
    (agrees : Items.Agrees copy apart change further items others) :
    Items.Agrees copy apart change further (items.cons item) (others.cons (change item)) := by
  cases agrees with
  | finished items after => exact .finished (item :: items) after
  | failed items allowed reports => exact .failed (item :: items) allowed reports

theorem Items.Agrees.result {items : Items α} {others : Items β}
    (agrees : Items.Agrees copy apart change further items others) :
    copy.Agrees apart (List.map change) items.result others.result := by
  cases agrees with
  | finished items after => exact .found items after
  | failed items allowed reports => exact .failed reports

/-- Repetition agrees on a text and on its copy when every step does. For a step that fails it is
enough that the copy fails some steps later. -/
theorem many_copy (leftForward : Progressive left) (rightForward : Progressive right)
    (steps : ∀ {reached after : Cursor} {item : Next α}, Reaches left cursor reached →
      left reached = .ok (item, after) →
      right (copy.cursor reached) = .ok (item.map change, copy.cursor after))
    (fails : ∀ {reached : Cursor} {fault : Fault}, Reaches left cursor reached →
      left reached = .error fault → ∃ others other, further others ∧
        many right (copy.cursor reached) = ⟨others, .error other⟩ ∧
        copy.Reports apart fault other) :
    Items.Agrees copy apart change further (many left cursor)
      (many right (copy.cursor cursor)) := by
  -- By induction on what is left of the text, of which every further item takes a character.
  generalize bound : cursor.rest.length = length
  induction length using Nat.strongRecOn generalizing cursor with
  | ind length induction =>
      rw [many_eq leftForward]
      match read : left cursor with
      | .error fault =>
          obtain ⟨others, other, allowed, same, reports⟩ := fails .start read
          rw [same]
          exact .failed [] allowed reports
      | .ok (.stop, after) =>
          rw [many_eq rightForward, steps .start read]
          exact .finished [] after
      | .ok (.last item, after) =>
          rw [many_eq rightForward, steps .start read]
          exact .finished [item] after
      | .ok (.more item, after) =>
          rw [many_eq rightForward, steps .start read]
          have shorter := leftForward.shortens read
          exact (induction _ (by omega) (fun later => steps (later.of_more read))
            (fun later => fails (later.of_more read)) rfl).cons item

variable (cursor) in
/-- Repetition agrees on a text and on its copy when every step does. -/
theorem many_copy_of_agrees (leftForward : Progressive left) (rightForward : Progressive right)
    (agrees : ∀ {reached : Cursor}, Reaches left cursor reached →
      copy.Agrees apart (Next.map change) (left reached) (right (copy.cursor reached))) :
    Items.Agrees copy apart change (· = []) (many left cursor)
      (many right (copy.cursor cursor)) := by
  refine many_copy leftForward rightForward ?_ ?_
  · intro reached after item reaches read
    have step := agrees reaches
    rw [read] at step
    exact step.found_inv
  · intro reached fault reaches read
    have step := agrees reaches
    rw [read] at step
    obtain ⟨other, same, reports⟩ := step.failed_inv
    rw [many_eq rightForward, same]
    exact ⟨[], other, rfl, rfl, reports⟩

end Repetition

end VersionCatalog.Document
