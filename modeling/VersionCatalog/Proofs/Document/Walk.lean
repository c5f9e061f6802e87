import VersionCatalog.Proofs.Document.Passage

/-!
# Walks over a text

A reader says where it ends, but not where it has been. A `Walk` is a reader that tells all
positions it comes to, also when it fails. Walks are put together from moves: characters are passed
with the line feeds among them counted, or characters are skipped that are none. Nothing else
changes the position, so that the positions of a walk follow each other without a gap (`Course`)
and none of them is before an earlier one. What a part of a walk comes to, the whole comes to.
-/

namespace VersionCatalog.Document

/-! ## Moves -/

/-- How a position moves on. -/
inductive Cursor.Move (before : Cursor) : Cursor → Prop where
  /-- Characters are passed, and the line feeds among them are counted. -/
  | advance (count : Nat) : Move before (before.advance count)
  /-- Characters that are no line feeds are skipped on their line. -/
  | skip {skipped rest : List Char} (next : before.rest = skipped ++ rest)
      (oneLine : '\n' ∉ skipped) : Move before ⟨rest, before.line⟩

/-- One character that is no line feed is skipped. -/
theorem Cursor.Move.pass {before : Cursor} {char : Char} {rest : List Char}
    (next : before.rest = char :: rest) (plain : char ≠ '\n') :
    before.Move ⟨rest, before.line⟩ :=
  @Cursor.Move.skip before [char] rest next (by simpa using plain.symm)

/-- What is left of a line is skipped at once. -/
theorem Cursor.Move.lineEnd (before : Cursor) :
    before.Move ⟨before.rest.dropWhile (· != '\n'), before.line⟩ := by
  refine .skip List.takeWhile_append_dropWhile.symm fun inside => ?_
  exact absurd (Text.forall_mem_takeWhile inside) (by decide)

theorem Cursor.Move.passes {before after : Cursor} (move : before.Move after) :
    before.Passes after := by
  cases move with
  | advance count => exact Cursor.passes_advance before count
  | @skip skipped rest next oneLine =>
      exact Cursor.passes_of_append skipped next rfl oneLine

/-- The positions come to one after the other from the first position to the last. -/
inductive Course : Cursor → List Cursor → Cursor → Prop where
  /-- There is no move. -/
  | stay (cursor : Cursor) : Course cursor [] cursor
  /-- There is a move, and others after it. -/
  | move {before middle last : Cursor} {places : List Cursor} (moved : before.Move middle)
      (others : Course middle places last) : Course before (middle :: places) last

namespace Course

theorem single {before after : Cursor} (moved : before.Move after) :
    Course before [after] after :=
  .move moved (.stay after)

theorem append {first middle last : Cursor} {front back : List Cursor}
    (inFront : Course first front middle) (inBack : Course middle back last) :
    Course first (front ++ back) last := by
  induction inFront with
  | stay => exact inBack
  | move moved _ induction => exact .move moved (induction inBack)

theorem last_mem {first last : Cursor} {places : List Cursor}
    (course : Course first places last) : last ∈ first :: places := by
  induction course with
  | stay => exact List.mem_cons_self
  | move _ _ induction => exact List.mem_cons_of_mem _ induction

theorem passes_of_mem {first last position : Cursor} {places : List Cursor}
    (course : Course first places last) (member : position ∈ first :: places) :
    first.Passes position := by
  induction course with
  | stay cursor =>
      rw [List.mem_singleton.1 member]
      exact .refl cursor
  | move moved _ induction =>
      rcases List.mem_cons.1 member with rfl | further
      · exact .refl _
      · exact moved.passes.trans (induction further)

end Course

/-! ## Walks -/

/-- A reader with the positions that it comes to. -/
structure Walk (α : Type) where
  read : Reader α
  /-- The positions after the first, in order. -/
  places : Cursor → List Cursor
  /-- The positions follow each other, and reading ends at the last of them. -/
  course (cursor : Cursor) : ∃ last, Course cursor (places cursor) last ∧
    ∀ {value : α} {after : Cursor}, read cursor = .ok (value, after) → after = last

namespace Walk

variable {α β : Type}

/-- The walk that stays where it is. -/
def stay (value : α) : Walk α where
  read cursor := .ok (value, cursor)
  places _ := []
  course cursor := ⟨cursor, .stay cursor, fun found => by cases found; rfl⟩

/-- One walk after another, unless the first fails. -/
def andThen (first : Walk α) (later : α → Walk β) : Walk β where
  read cursor :=
    match first.read cursor with
    | .error fault => .error fault
    | .ok (value, after) => (later value).read after
  places cursor :=
    match first.read cursor with
    | .error _ => first.places cursor
    | .ok (value, after) => first.places cursor ++ (later value).places after
  course cursor := by
    obtain ⟨middle, inFront, ended⟩ := first.course cursor
    split
    · exact ⟨middle, inFront, fun found => by cases found⟩
    · next value after found =>
        obtain ⟨last, inBack, endsLast⟩ := (later value).course after
        cases ended found
        exact ⟨last, inFront.append inBack, endsLast⟩

instance : Monad Walk where
  pure := stay
  bind := andThen

/-- The walk that only looks where it is. -/
def here : Walk Cursor where
  read cursor := .ok (cursor, cursor)
  places _ := []
  course cursor := ⟨cursor, .stay cursor, fun found => by cases found; rfl⟩

/-- The walk that fails where it is. -/
def fail (fault : Fault) : Walk α where
  read _ := .error fault
  places _ := []
  course cursor := ⟨cursor, .stay cursor, fun found => by cases found⟩

/-- The walk to a position, by way of others. -/
def along (target : Cursor → Cursor) (places : Cursor → List Cursor)
    (course : ∀ cursor, Course cursor (places cursor) (target cursor)) : Walk Unit where
  read cursor := .ok ((), target cursor)
  places := places
  course cursor := ⟨target cursor, course cursor, fun found => by cases found; rfl⟩

/-- The walk over a number of characters at once. -/
def advance (count : Nat) : Walk Unit :=
  along (·.advance count) (fun cursor => [cursor.advance count])
    fun _ => .single (.advance count)

/-! ## What walks read -/

@[simp] theorem read_pure (value : α) (cursor : Cursor) :
    (pure value : Walk α).read cursor = .ok (value, cursor) :=
  rfl

@[simp] theorem read_bind (first : Walk α) (later : α → Walk β) (cursor : Cursor) :
    (first >>= later).read cursor =
      match first.read cursor with
      | .error fault => .error fault
      | .ok (value, after) => (later value).read after :=
  rfl

@[simp] theorem read_map (transform : α → β) (walk : Walk α) (cursor : Cursor) :
    (transform <$> walk).read cursor =
      (walk.read cursor).map fun (value, after) => (transform value, after) := by
  change (walk >>= _).read cursor = _
  rw [read_bind]
  cases walk.read cursor <;> rfl

@[simp] theorem read_here (cursor : Cursor) : here.read cursor = .ok (cursor, cursor) :=
  rfl

@[simp] theorem read_fail (fault : Fault) (cursor : Cursor) :
    (fail fault : Walk α).read cursor = .error fault :=
  rfl

@[simp] theorem read_advance (count : Nat) (cursor : Cursor) :
    (advance count).read cursor = .ok ((), cursor.advance count) :=
  rfl

/-! ## Characters passed one by one -/

/-- The positions after the characters that are taken, one by one. -/
def placesWhile (taken : Char → Bool) (line : Nat) : List Char → List Cursor
  | [] => []
  | char :: rest => if taken char then ⟨rest, line⟩ :: placesWhile taken line rest else []

theorem course_placesWhile {taken : Char → Bool} (oneLine : taken '\n' = false) (line : Nat)
    (text : List Char) :
    Course ⟨text, line⟩ (placesWhile taken line text) ⟨text.dropWhile taken, line⟩ := by
  induction text with
  | nil => exact .stay _
  | cons char rest induction =>
      rw [placesWhile, List.dropWhile_cons]
      split
      · next kept =>
          have plain : char ≠ '\n' := by
            rintro rfl
            simp [oneLine] at kept
          exact .move (.pass rfl plain) induction
      · exact .stay _

/-- The walk over all characters of a kind that line feeds are not of. -/
def passWhile (taken : Char → Bool) (oneLine : taken '\n' = false) : Walk Unit :=
  along (fun cursor => ⟨cursor.rest.dropWhile taken, cursor.line⟩)
    (fun cursor => placesWhile taken cursor.line cursor.rest)
    fun cursor => course_placesWhile oneLine cursor.line cursor.rest

@[simp] theorem read_passWhile {taken : Char → Bool} (oneLine : taken '\n' = false)
    (cursor : Cursor) :
    (passWhile taken oneLine).read cursor =
      .ok ((), ⟨cursor.rest.dropWhile taken, cursor.line⟩) :=
  rfl

/-- The walk over spaces and tabs. -/
def skipInline : Walk Unit :=
  passWhile isInlineBlank (by decide)

@[simp] theorem read_skipInline (cursor : Cursor) :
    skipInline.read cursor = .ok ((), cursor.skipInline) :=
  rfl

/-- The walk to the end of a line. -/
def toLineEnd : Walk Unit :=
  along (fun cursor => ⟨cursor.rest.dropWhile (· != '\n'), cursor.line⟩)
    (fun cursor => [⟨cursor.rest.dropWhile (· != '\n'), cursor.line⟩])
    fun cursor => .single (.lineEnd cursor)

@[simp] theorem read_toLineEnd (cursor : Cursor) :
    toLineEnd.read cursor = .ok ((), ⟨cursor.rest.dropWhile (· != '\n'), cursor.line⟩) :=
  rfl

/-- The walk over a comment. -/
def skipComment : Walk Unit := do
  let cursor ← here
  if cursor.rest.head? = some '#' then toLineEnd

@[simp] theorem read_skipComment (cursor : Cursor) :
    skipComment.read cursor = .ok ((), cursor.skipComment) := by
  simp only [skipComment, Cursor.skipComment, read_bind, read_here]
  split
  · next begun =>
      obtain ⟨rest, begun⟩ := List.head?_eq_some_iff.1 begun
      simp [begun]
  · next other =>
      split
      · next begun => simp [begun] at other
      · rfl

/-- The walk over a carriage return. -/
def skipReturn : Walk Unit := do
  let cursor ← here
  if cursor.rest.head? = some '\r' then advance 1

@[simp] theorem read_skipReturn (cursor : Cursor) :
    skipReturn.read cursor = .ok ((), cursor.skipReturn) := by
  simp only [skipReturn, Cursor.skipReturn, read_bind, read_here]
  split
  · next begun =>
      obtain ⟨rest, begun⟩ := List.head?_eq_some_iff.1 begun
      simp [begun, Cursor.advance]
  · next other =>
      split
      · next begun => simp [begun] at other
      · rfl

/-- The positions in filler: after every character of white space, after every line feed, and at the
end of every comment. -/
def fillerPlaces (inComment : Bool) (line : Nat) : List Char → List Cursor
  | [] => []
  | char :: rest =>
      if char = '\n' then ⟨rest, line + 1⟩ :: fillerPlaces false (line + 1) rest
      else if inComment then fillerPlaces true line rest
      else if isInlineBlank char || char == '\r' then ⟨rest, line⟩ :: fillerPlaces false line rest
      else if char = '#' then
        ⟨rest.dropWhile (· != '\n'), line⟩ :: fillerPlaces true line rest
      else []

/-- Inside a comment nothing is come to before its end. -/
theorem course_fillerPlaces (inComment : Bool) (line : Nat) (text : List Char) :
    Course ⟨if inComment then text.dropWhile (· != '\n') else text, line⟩
      (fillerPlaces inComment line text) (Cursor.skipFillerFrom inComment line text) := by
  induction text generalizing inComment line with
  | nil =>
      rw [List.dropWhile_nil, ite_self]
      exact .stay _
  | cons char rest induction =>
      by_cases feed : char = '\n'
      · subst feed
        have advanced : (⟨'\n' :: rest, line⟩ : Cursor).advance 1 = ⟨rest, line + 1⟩ := by
          simp [Cursor.advance]
        rw [List.dropWhile_cons_of_neg (by simp), ite_self, fillerPlaces, if_pos rfl,
          Cursor.skipFillerFrom, if_pos rfl, ← advanced]
        exact .move (.advance 1) (advanced ▸ induction false _)
      · have skipped : (char :: rest).dropWhile (· != '\n') = rest.dropWhile (· != '\n') :=
          List.dropWhile_cons_of_pos (by simpa using feed)
        have lineEnd := Cursor.Move.lineEnd ⟨char :: rest, line⟩
        simp only [skipped] at lineEnd
        rw [fillerPlaces, if_neg feed, Cursor.skipFillerFrom, if_neg feed]
        cases inComment with
        | true =>
            simp only [Bool.true_or, if_true, skipped]
            exact induction true line
        | false =>
            simp only [Bool.false_or, Bool.false_eq_true, if_false]
            split
            · exact .move (.pass rfl feed) (induction false line)
            · split
              · exact .move lineEnd (induction true line)
              · exact .stay _

/-- The walk over white space, line breaks and comments. -/
def skipFiller : Walk Unit :=
  along Cursor.skipFiller (fun cursor => fillerPlaces false cursor.line cursor.rest)
    fun cursor => course_fillerPlaces false cursor.line cursor.rest

@[simp] theorem read_skipFiller (cursor : Cursor) :
    skipFiller.read cursor = .ok ((), cursor.skipFiller) :=
  rfl

/-- The walk over the end of a line. -/
def finishLine (content : LineContent) : Walk Unit := do
  skipInline
  skipComment
  skipReturn
  let cursor ← here
  match cursor.rest with
  | [] => pure ()
  | '\n' :: _ => advance 1
  | _ => fail (cursor.fault (.trailingText content))

@[simp] theorem read_finishLine (content : LineContent) (cursor : Cursor) :
    (finishLine content).read cursor =
      (cursor.finishLine content).map fun after => ((), after) := by
  fun_cases Cursor.finishLine cursor content with
  | case1 after ended => simp_all +zetaDelta [finishLine, Except.map]
  | case2 after rest broken =>
      have passed : after.advance 1 = ⟨rest, after.line + 1⟩ := by simp [Cursor.advance, broken]
      simp_all +zetaDelta [finishLine, Except.map]
  | case3 after goesOn unbroken => simp_all +zetaDelta [finishLine, Except.map]

/-! ## Repetition -/

/-- The walk over items one after the other, in at most one round more than `rounds` has
characters. -/
def manyWithin (next : Walk (Next α)) (rounds : List Char) : Walk (List α) := do
  match ← next with
  | .stop => pure []
  | .last item => pure [item]
  | .more item =>
      match rounds with
      | [] => pure [item]
      | _ :: rounds => List.cons item <$> manyWithin next rounds

/-- The walk over items one after the other. -/
def many (next : Walk (Next α)) : Walk (List α) := do
  let cursor ← here
  manyWithin next cursor.rest

theorem read_manyWithin (next : Walk (Next α)) (rounds : List Char) (cursor : Cursor) :
    (manyWithin next rounds).read cursor =
      (Document.manyWithin next.read rounds cursor).result := by
  induction rounds generalizing cursor with
  | nil =>
      rw [manyWithin, Document.manyWithin, read_bind]
      obtain fault | ⟨_ | item | item, after⟩ := next.read cursor <;> rfl
  | cons char rounds induction =>
      rw [manyWithin, Document.manyWithin, read_bind]
      obtain fault | ⟨_ | item | item, after⟩ := next.read cursor
      · rfl
      · rfl
      · rfl
      · simp only [read_map, induction, result_cons]

@[simp] theorem read_many (next : Walk (Next α)) (cursor : Cursor) :
    (many next).read cursor = (Document.many next.read cursor).result :=
  read_manyWithin next cursor.rest cursor

/-! ## Parts of walks -/

/-- The positions of a walk, the first one included. -/
def trail (walk : Walk α) (cursor : Cursor) : List Cursor :=
  cursor :: walk.places cursor

theorem mem_trail_start (walk : Walk α) (cursor : Cursor) : cursor ∈ walk.trail cursor :=
  List.mem_cons_self

/-- Reading ends at a position that is come to. -/
theorem mem_trail_of_read {walk : Walk α} {cursor after : Cursor} {value : α}
    (read : walk.read cursor = .ok (value, after)) : after ∈ walk.trail cursor := by
  obtain ⟨last, course, ended⟩ := walk.course cursor
  rw [ended read]
  exact course.last_mem

section Bind

variable {first : Walk α} {later : α → Walk β} {cursor after : Cursor} {value : α}
  {part : List Cursor}

theorem places_bind_of_error {fault : Fault} (failed : first.read cursor = .error fault) :
    (first >>= later).places cursor = first.places cursor := by
  change (match first.read cursor with
    | .error _ => first.places cursor
    | .ok (value, after) => first.places cursor ++ (later value).places after) = _
  rw [failed]

theorem places_bind_of_ok (read : first.read cursor = .ok (value, after)) :
    (first >>= later).places cursor = first.places cursor ++ (later value).places after := by
  change (match first.read cursor with
    | .error _ => first.places cursor
    | .ok (value, after) => first.places cursor ++ (later value).places after) = _
  rw [read]

/-- What the first walk comes to, both together come to. -/
theorem trail_first (inside : part ⊆ first.trail cursor) :
    part ⊆ (first >>= later).trail cursor := by
  refine List.Subset.trans inside (List.cons_subset_cons _ ?_)
  cases read : first.read cursor with
  | error fault =>
      rw [places_bind_of_error read]
      exact List.Subset.refl _
  | ok found =>
      rw [places_bind_of_ok read]
      exact List.subset_append_left _ _

/-- So they do with what the other walk comes to from where the first one ends. -/
theorem trail_later (read : first.read cursor = .ok (value, after))
    (inside : part ⊆ (later value).trail after) : part ⊆ (first >>= later).trail cursor := by
  intro position member
  rw [trail, places_bind_of_ok read, ← List.cons_append, List.mem_append]
  rcases List.mem_cons.1 (inside member) with rfl | further
  · exact .inl (mem_trail_of_read read)
  · exact .inr further

theorem trail_map {transform : α → β} (inside : part ⊆ first.trail cursor) :
    part ⊆ (transform <$> first).trail cursor :=
  trail_first inside

theorem trail_here {later : Cursor → Walk β} (inside : part ⊆ (later cursor).trail cursor) :
    part ⊆ (here >>= later).trail cursor :=
  trail_later rfl inside

end Bind

/-! ## Repeated walks -/

section Repetition

variable {next : Walk (Next α)} {cursor middle : Cursor} {item : α} {rounds : List Char}

theorem places_manyWithin_of_more (read : next.read cursor = .ok (.more item, middle))
    (char : Char) :
    (manyWithin next (char :: rounds)).places cursor =
      next.places cursor ++ (manyWithin next rounds).places middle := by
  rw [manyWithin, places_bind_of_ok read]
  refine congrArg (next.places cursor ++ ·) ?_
  cases others : (manyWithin next rounds).read middle with
  | error fault => exact places_bind_of_error others
  | ok found => exact (places_bind_of_ok others).trans (List.append_nil _)

theorem places_manyWithin_of_ended
    (ended : ∀ item after, next.read cursor ≠ .ok (.more item, after)) :
    (manyWithin next rounds).places cursor = next.places cursor := by
  rw [manyWithin.eq_def]
  cases read : next.read cursor with
  | error fault => exact places_bind_of_error read
  | ok found =>
      obtain ⟨_ | item | item, after⟩ := found
      · exact (places_bind_of_ok read).trans (List.append_nil _)
      · exact (places_bind_of_ok read).trans (List.append_nil _)
      · exact absurd read (ended item after)

/-- Rounds beyond the characters that are left make no difference to the positions. -/
theorem places_manyWithin_eq (progressive : Progressive next.read) {left right : List Char}
    (leftEnough : cursor.rest.length ≤ left.length)
    (rightEnough : cursor.rest.length ≤ right.length) :
    (manyWithin next left).places cursor = (manyWithin next right).places cursor := by
  induction left generalizing right cursor with
  | nil =>
      have ended : ∀ item after, next.read cursor ≠ .ok (.more item, after) :=
        fun item after read => absurd (progressive.shortens read) (by simp_all)
      rw [places_manyWithin_of_ended ended, places_manyWithin_of_ended ended]
  | cons char left induction =>
      by_cases more : ∃ item after, next.read cursor = .ok (.more item, after)
      · obtain ⟨item, after, read⟩ := more
        have shorter := progressive.shortens read
        cases right with
        | nil => exact absurd (Nat.lt_of_lt_of_le shorter rightEnough) (Nat.not_lt_zero _)
        | cons other right =>
            rw [List.length_cons] at leftEnough rightEnough
            rw [places_manyWithin_of_more read, places_manyWithin_of_more read,
              induction (by omega) (by omega : after.rest.length ≤ right.length)]
      · simp only [not_exists] at more
        rw [places_manyWithin_of_ended more, places_manyWithin_of_ended more]

theorem trail_many_eq (progressive : Progressive next.read) {rounds : List Char}
    (enough : cursor.rest.length ≤ rounds.length) :
    (many next).trail cursor = (manyWithin next rounds).trail cursor :=
  congrArg (cursor :: ·) (places_manyWithin_eq progressive (Nat.le_refl _) enough)

theorem trail_many_round (next : Walk (Next α)) (cursor : Cursor) :
    next.trail cursor ⊆ (many next).trail cursor := by
  refine trail_here ?_
  rw [manyWithin.eq_def]
  exact trail_first (List.Subset.refl _)

theorem trail_many_more (progressive : Progressive next.read)
    (read : next.read cursor = .ok (.more item, middle)) :
    (many next).trail middle ⊆ (many next).trail cursor := by
  have shorter := progressive.shortens read
  refine trail_here ?_
  cases left : cursor.rest with
  | nil => simp [left] at shorter
  | cons char rest =>
      rw [left, List.length_cons] at shorter
      rw [manyWithin, trail_many_eq progressive (Nat.le_of_lt_succ shorter)]
      exact trail_later read (trail_map (List.Subset.refl _))

end Repetition

end Walk

end VersionCatalog.Document
