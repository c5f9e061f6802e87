import VersionCatalog.Proofs.Text.Span
import VersionCatalog.Text.Pattern

/-!
# What patterns match

The texts that a pattern takes as a whole are its language, given here with the texts of the groups
and without any order of the ways to match. A pattern matches the front of a text in just the ways
in which that front belongs to its language. Where there is one way only, the order does not matter
and the language tells what is found.
-/

namespace VersionCatalog.Text

namespace Pattern

/-- A text belongs to the language of a pattern, with these texts of the groups. -/
inductive Takes : Pattern → List Char → List (List Char) → Prop where
  | oneOf {accepts : Char → Bool} {char : Char} (accepted : accepts char = true) :
      Takes (.oneOf accepts) [char] []
  | andThen {first second : Pattern} {front back : List Char} {earlier later : List (List Char)}
      (begins : Takes first front earlier) (ends : Takes second back later) :
      Takes (.andThen first second) (front ++ back) (earlier ++ later)
  | missing {part : Pattern} : Takes (.optional part) [] []
  | present {part : Pattern} {text : List Char} {groups : List (List Char)}
      (inside : Takes part text groups) : Takes (.optional part) text groups
  | noMore {part : Pattern} : Takes (.many part) [] []
  | oneMore {part : Pattern} {front back : List Char} {earlier later : List (List Char)}
      (once : Takes part front earlier) (filled : front ≠ [])
      (others : Takes (.many part) back later) :
      Takes (.many part) (front ++ back) (earlier ++ later)
  | group {part : Pattern} {text : List Char} {groups : List (List Char)}
      (inside : Takes part text groups) : Takes (.group part) text (text :: groups)

variable {pattern part first second : Pattern} {accepts : Char → Bool} {text : List Char}
  {groups : List (List Char)} {found : Match}

/-- A way to match a part takes the front of a text that belongs to the language of the part. -/
def Describes (pattern : Pattern) (matched : List Char → List Match) : Prop :=
  ∀ text found, found ∈ matched text ↔
    ∃ front, pattern.Takes front found.groups ∧ text = front ++ found.rest

theorem mem_rounds_iff (described : part.Describes part.matched) {limit : Nat}
    (enough : text.length ≤ limit) :
    found ∈ rounds part.matched limit text ↔
      ∃ front, (many part).Takes front found.groups ∧ text = front ++ found.rest := by
  obtain ⟨groups, rest⟩ := found
  induction limit generalizing text groups rest with
  | zero =>
      obtain rfl := List.length_eq_zero_iff.1 (Nat.le_zero.1 enough)
      simp only [rounds, List.mem_singleton, Match.mk.injEq]
      constructor
      · rintro ⟨rfl, rfl⟩
        exact ⟨[], .noMore, rfl⟩
      · rintro ⟨front, takes, whole⟩
        obtain ⟨rfl, rfl⟩ := List.append_eq_nil_iff.1 whole.symm
        generalize nothing : ([] : List Char) = front at takes
        cases takes with
        | noMore => exact ⟨rfl, rfl⟩
        | oneMore _ filled => simp [filled] at nothing
  | succ limit induction =>
      simp only [rounds, List.mem_append, List.mem_flatMap, List.mem_filter, decide_eq_true_eq,
        List.mem_map, List.mem_singleton, Match.mk.injEq]
      constructor
      · rintro (⟨once, ⟨taken, shorter⟩, others, later, same⟩ | ⟨rfl, rfl⟩)
        · obtain ⟨front, begins, rfl⟩ := (described text once).1 taken
          have filled : front ≠ [] := by
            rintro rfl
            exact Nat.lt_irrefl _ shorter
          have short : once.rest.length ≤ limit := by omega
          obtain ⟨back, goesOn, split⟩ := (induction short others.groups others.rest).1 later
          simp only [Match.followedBy, Match.mk.injEq] at same
          obtain ⟨rfl, rfl⟩ := same
          exact ⟨front ++ back, .oneMore begins filled goesOn, by rw [split, List.append_assoc]⟩
        · exact ⟨[], .noMore, rfl⟩
      · rintro ⟨front, takes, rfl⟩
        cases takes with
        | noMore => exact .inr ⟨rfl, rfl⟩
        | @oneMore _ front back earlier later begins filled goesOn =>
            have positive := List.length_pos_iff.2 filled
            rw [List.append_assoc, List.length_append] at enough
            have short : (back ++ rest).length ≤ limit := by omega
            have shorter : (back ++ rest).length < (front ++ back ++ rest).length := by
              rw [List.append_assoc, @List.length_append _ front]
              omega
            exact .inl ⟨⟨earlier, back ++ rest⟩,
              ⟨(described _ _).2 ⟨front, begins, List.append_assoc ..⟩, shorter⟩,
              ⟨later, rest⟩, (induction short later rest).2 ⟨back, goesOn, rfl⟩, rfl⟩

theorem describes_oneOf (accepts : Char → Bool) :
    (oneOf accepts).Describes (oneOf accepts).matched := by
  rintro text ⟨groups, rest⟩
  cases text with
  | nil =>
      simp only [matched, List.not_mem_nil, false_iff]
      rintro ⟨front, takes, whole⟩
      cases takes with
      | oneOf => cases whole
  | cons char text =>
      simp only [matched, List.mem_ite_nil_right, List.mem_singleton, Match.mk.injEq]
      constructor
      · rintro ⟨accepted, rfl, rfl⟩
        exact ⟨[char], .oneOf accepted, rfl⟩
      · rintro ⟨front, takes, whole⟩
        cases takes with
        | oneOf accepted =>
            cases whole
            exact ⟨accepted, rfl, rfl⟩

theorem Describes.andThen (firstDescribed : first.Describes first.matched)
    (secondDescribed : second.Describes second.matched) :
    (first.andThen second).Describes (first.andThen second).matched := by
  rintro text ⟨groups, rest⟩
  simp only [matched, List.mem_flatMap, List.mem_map]
  constructor
  · rintro ⟨earlier, taken, later, followed, same⟩
    obtain ⟨front, begins, rfl⟩ := (firstDescribed _ _).1 taken
    obtain ⟨back, ends, split⟩ := (secondDescribed _ _).1 followed
    simp only [Match.followedBy, Match.mk.injEq] at same
    obtain ⟨rfl, rfl⟩ := same
    exact ⟨front ++ back, .andThen begins ends, by rw [split, List.append_assoc]⟩
  · rintro ⟨front, takes, rfl⟩
    cases takes with
    | @andThen _ _ front back earlier later begins ends =>
        exact ⟨⟨earlier, back ++ rest⟩,
          (firstDescribed _ _).2 ⟨front, begins, List.append_assoc ..⟩,
          ⟨later, rest⟩, (secondDescribed _ _).2 ⟨back, ends, rfl⟩, rfl⟩

theorem Describes.optional (described : part.Describes part.matched) :
    part.optional.Describes part.optional.matched := by
  rintro text ⟨groups, rest⟩
  simp only [matched, List.mem_append, described text, List.mem_singleton, Match.mk.injEq]
  constructor
  · rintro (⟨front, inside, whole⟩ | ⟨rfl, rfl⟩)
    · exact ⟨front, .present inside, whole⟩
    · exact ⟨[], .missing, rfl⟩
  · rintro ⟨front, takes, whole⟩
    cases takes with
    | missing => exact .inr ⟨rfl, whole.symm⟩
    | present inside => exact .inl ⟨front, inside, whole⟩

theorem Describes.group (described : part.Describes part.matched) :
    part.group.Describes part.group.matched := by
  rintro text ⟨groups, rest⟩
  simp only [matched, List.mem_map, Match.mk.injEq]
  constructor
  · rintro ⟨inside, taken, rfl, rfl⟩
    obtain ⟨front, begins, rfl⟩ := (described _ _).1 taken
    refine ⟨front, ?_, rfl⟩
    rw [List.length_append, Nat.add_sub_cancel, List.take_left]
    exact .group begins
  · rintro ⟨front, takes, rfl⟩
    cases takes with
    | @group _ _ groups inside =>
        refine ⟨⟨groups, rest⟩, (described _ _).2 ⟨front, inside, rfl⟩, ?_, rfl⟩
        rw [List.length_append, Nat.add_sub_cancel, List.take_left]

/-- A pattern matches the front of a text in just the ways in which the front belongs to its
language. -/
theorem describes_matched (pattern : Pattern) : pattern.Describes pattern.matched := by
  induction pattern with
  | oneOf accepts => exact describes_oneOf accepts
  | andThen first second firstDescribed secondDescribed =>
      exact firstDescribed.andThen secondDescribed
  | optional part described => exact described.optional
  | many part described => exact fun _ _ => mem_rounds_iff described (Nat.le_refl _)
  | group part described => exact described.group

theorem mem_matched_iff :
    found ∈ pattern.matched text ↔
      ∃ front, pattern.Takes front found.groups ∧ text = front ++ found.rest :=
  describes_matched pattern text found

/-! ## Languages part by part -/

theorem takes_oneOf_iff :
    (oneOf accepts).Takes text groups ↔
      (∃ char, accepts char = true ∧ text = [char]) ∧ groups = [] := by
  constructor
  · intro takes
    cases takes with
    | oneOf accepted => exact ⟨⟨_, accepted, rfl⟩, rfl⟩
  · rintro ⟨⟨char, accepted, rfl⟩, rfl⟩
    exact .oneOf accepted

theorem takes_mark_iff {char : Char} :
    (mark char).Takes text groups ↔ text = [char] ∧ groups = [] := by
  simp [mark, takes_oneOf_iff]

theorem takes_andThen_iff :
    (andThen first second).Takes text groups ↔
      ∃ front earlier back later, first.Takes front earlier ∧ second.Takes back later ∧
        text = front ++ back ∧ groups = earlier ++ later := by
  constructor
  · intro takes
    cases takes with
    | andThen begins ends => exact ⟨_, _, _, _, begins, ends, rfl, rfl⟩
  · rintro ⟨front, earlier, back, later, begins, ends, rfl, rfl⟩
    exact .andThen begins ends

theorem takes_optional_iff :
    (optional part).Takes text groups ↔ part.Takes text groups ∨ text = [] ∧ groups = [] := by
  constructor
  · intro takes
    cases takes with
    | missing => exact .inr ⟨rfl, rfl⟩
    | present inside => exact .inl inside
  · rintro (inside | ⟨rfl, rfl⟩)
    · exact .present inside
    · exact .missing

theorem takes_group_iff :
    (group part).Takes text groups ↔ ∃ inner, part.Takes text inner ∧ groups = text :: inner := by
  constructor
  · intro takes
    cases takes with
    | group inside => exact ⟨_, inside, rfl⟩
  · rintro ⟨inner, inside, rfl⟩
    exact .group inside

/-- A part without groups is repeated over pieces that all belong to its language. -/
theorem takes_many_iff (ungrouped : ∀ front earlier, part.Takes front earlier → earlier = []) :
    (many part).Takes text groups ↔
      (∃ pieces : List (List Char), (∀ piece ∈ pieces, piece ≠ [] ∧ part.Takes piece []) ∧
        text = pieces.flatten) ∧ groups = [] := by
  constructor
  · intro takes
    generalize repeated : many part = pattern at takes
    induction takes with
    | noMore => exact ⟨⟨[], by simp, rfl⟩, rfl⟩
    | @oneMore _ front back earlier later once filled others _ induction =>
        cases repeated
        obtain ⟨⟨pieces, written, rfl⟩, rfl⟩ := induction rfl
        obtain rfl := ungrouped front earlier once
        refine ⟨⟨front :: pieces, ?_, rfl⟩, rfl⟩
        rw [List.forall_mem_cons]
        exact ⟨⟨filled, once⟩, written⟩
    | _ => cases repeated
  · rintro ⟨⟨pieces, written, rfl⟩, rfl⟩
    induction pieces with
    | nil => exact .noMore
    | cons piece pieces induction =>
        rw [List.forall_mem_cons] at written
        exact .oneMore written.1.2 written.1.1 (induction written.2)

theorem takes_many_oneOf_iff :
    (many (oneOf accepts)).Takes text groups ↔
      (∀ char ∈ text, accepts char = true) ∧ groups = [] := by
  constructor
  · intro takes
    have ungrouped := fun front earlier => And.right ∘ (@takes_oneOf_iff accepts front earlier).1
    obtain ⟨⟨pieces, written, rfl⟩, rfl⟩ := (takes_many_iff ungrouped).1 takes
    refine ⟨fun char member => ?_, rfl⟩
    obtain ⟨piece, within, inside⟩ := List.mem_flatten.1 member
    obtain ⟨⟨other, accepted, rfl⟩, _⟩ := takes_oneOf_iff.1 (written piece within).2
    rwa [List.mem_singleton.1 inside]
  · rintro ⟨accepted, rfl⟩
    induction text with
    | nil => exact .noMore
    | cons char text induction =>
        rw [List.forall_mem_cons] at accepted
        exact .oneMore (.oneOf accepted.1) (List.cons_ne_nil _ _) (induction accepted.2)

theorem takes_atLeastOnce_oneOf_iff :
    (atLeastOnce (oneOf accepts)).Takes text groups ↔
      (text ≠ [] ∧ ∀ char ∈ text, accepts char = true) ∧ groups = [] := by
  simp only [atLeastOnce, takes_andThen_iff, takes_oneOf_iff, takes_many_oneOf_iff]
  constructor
  · rintro ⟨_, _, back, _, ⟨⟨char, accepted, rfl⟩, rfl⟩, ⟨others, rfl⟩, rfl, rfl⟩
    exact ⟨⟨List.cons_ne_nil _ _, List.forall_mem_cons.2 ⟨accepted, others⟩⟩, rfl⟩
  · rintro ⟨⟨filled, accepted⟩, rfl⟩
    obtain ⟨char, others, rfl⟩ := List.exists_cons_of_ne_nil filled
    rw [List.forall_mem_cons] at accepted
    exact ⟨[char], [], others, [], ⟨⟨char, accepted.1, rfl⟩, rfl⟩, ⟨accepted.2, rfl⟩, rfl, rfl⟩

/-! ## The way that is found -/

/-- The only way to match is the one that is found. -/
theorem match?_eq_of_forall {only : Option Match}
    (alone : ∀ found, found ∈ pattern.matched text ↔ only = some found) :
    pattern.match? text = only := by
  rw [match?]
  cases ways : pattern.matched text with
  | nil =>
      cases only with
      | none => rfl
      | some found => simpa [ways] using (alone found).2 rfl
  | cons found others => exact ((alone found).1 (by simp [ways])).symm

theorem isEnd_iff {rest : List Char} : isEnd rest = true ↔ rest = [] ∨ rest = ['\n'] := by
  simp [isEnd]

/-- A pattern matches up to the end of a text when the text, or the text before its last line feed,
belongs to its language. -/
theorem isSome_matchLine?_iff :
    (pattern.matchLine? text).isSome = true ↔
      ∃ line groups, pattern.Takes line groups ∧ (text = line ∨ text = line ++ ['\n']) := by
  simp only [matchLine?, List.find?_isSome, mem_matched_iff, isEnd_iff]
  constructor
  · rintro ⟨⟨groups, rest⟩, ⟨front, takes, rfl⟩, rfl | rfl⟩
    · exact ⟨front, groups, takes, .inl (List.append_nil front)⟩
    · exact ⟨front, groups, takes, .inr rfl⟩
  · rintro ⟨line, groups, takes, rfl | rfl⟩
    · exact ⟨⟨groups, []⟩, ⟨_, takes, (List.append_nil _).symm⟩, .inl rfl⟩
    · exact ⟨⟨groups, ['\n']⟩, ⟨_, takes, rfl⟩, .inr rfl⟩

/-- What is found up to the end of a text is in the language, with its groups. -/
theorem takes_of_matchLine? (reached : pattern.matchLine? text = some found) :
    ∃ line, pattern.Takes line found.groups ∧ (text = line ∨ text = line ++ ['\n']) := by
  obtain ⟨front, takes, rfl⟩ := mem_matched_iff.1 (List.mem_of_find?_eq_some reached)
  rw [matchLine?] at reached
  have atEnd := List.find?_some reached
  refine ⟨front, takes, ?_⟩
  rcases isEnd_iff.1 atEnd with ended | ended
  · exact .inl (by rw [ended, List.append_nil])
  · exact .inr (by rw [ended])

/-! ## Matches one after the other -/

theorem findAllFrom_length (passed rest : List Char) :
    findAllFrom pattern passed.length (passed ++ rest) = findAllFrom pattern 0 rest := by
  induction passed with
  | nil => rfl
  | cons char passed induction =>
      rw [List.cons_append, List.length_cons, findAllFrom]
      exact induction

end Pattern

end VersionCatalog.Text
