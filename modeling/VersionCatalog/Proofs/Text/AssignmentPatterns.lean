import VersionCatalog.Proofs.Text.Assignment
import VersionCatalog.Proofs.Text.Pattern

/-!
# The patterns of assignments

A text is searched for assignments without their patterns: the search reads every word to its end
and looks at what follows it. No character of a word can stand right after the word in a match, so a
pattern matches a whole word or nothing that ends in it, and in one way at most. The search
therefore finds what the patterns match from left to right.
-/

namespace VersionCatalog.Text

variable {text word rest value : List Char} {groups : List (List Char)} {found later : Match}

/-! ## One match -/

theorem afterEquals?_eq_some_iff :
    afterEquals? text = some rest ↔
      ∃ blanks, (∀ char ∈ blanks, isBlank char = true) ∧ text = blanks ++ '=' :: rest := by
  constructor
  · intro follows
    refine ⟨text.takeWhile isBlank, fun char => forall_mem_takeWhile, ?_⟩
    rw [afterEquals?] at follows
    split at follows
    · next after equals =>
        cases follows
        rw [← equals]
        exact List.takeWhile_append_dropWhile.symm
    · cases follows
  · rintro ⟨blanks, blank, rfl⟩
    rw [afterEquals?, stripStart, dropWhile_of_stops blank (stops_cons (by decide))]
    rfl

theorem quotedValue?_eq_some_iff :
    quotedValue? text = some value ↔
      ∃ blanks rest, (∀ char ∈ blanks, isBlank char = true) ∧ value ≠ [] ∧ '"' ∉ value ∧
        text = blanks ++ '"' :: (value ++ '"' :: rest) := by
  constructor
  · intro follows
    rw [quotedValue?] at follows
    split at follows
    · next after opened =>
        simp only [Bool.or_eq_true, List.isEmpty_iff, decide_eq_true_eq] at follows
        split at follows
        · cases follows
        · next closed =>
            cases follows
            rw [not_or] at closed
            have unquoted : '"' ∉ after.takeWhile (· != '"') := fun inside =>
              absurd (forall_mem_takeWhile inside) (by simp)
            have split := List.takeWhile_append_dropWhile (p := (· != '"')) (l := after)
            have whole := List.takeWhile_append_dropWhile (p := isBlank) (l := text)
            rw [← stripStart, opened] at whole
            cases ends : after.dropWhile (· != '"') with
            | nil =>
                rw [ends, List.append_nil] at split
                exact (closed.2 (congrArg List.length split)).elim
            | cons quote rest =>
                have lacks := stops_dropWhile (· != '"') after
                rw [ends, stops_cons_iff, bne_eq_false_iff_eq] at lacks
                refine ⟨text.takeWhile isBlank, rest, fun char => forall_mem_takeWhile, closed.1,
                  unquoted, ?_⟩
                subst lacks
                rw [← ends, split, whole]
    · cases follows
  · rintro ⟨blanks, rest, blank, filled, unquoted, rfl⟩
    have inside : ∀ char ∈ value, (char != '"') = true := fun char member =>
      bne_iff_ne.2 (ne_of_mem_of_not_mem member unquoted)
    simp only [quotedValue?, stripStart,
      dropWhile_of_stops blank (stops_cons isBarrier_quote.notBlank),
      takeWhile_of_stops inside (stops_cons (by decide) : Stops (· != '"') ('"' :: rest))]
    simp [filled]

/-- What is matched after a word by an equals sign. -/
def equalsAfter? (text : List Char) : Option Match :=
  (afterEquals? text).map (⟨[], ·⟩)

/-- What is matched after a word by an equals sign and a quoted value. -/
def valueAfter? (text : List Char) : Option Match :=
  (afterEquals? text).bind fun value =>
    (quotedValue? value).map fun content =>
      ⟨[content], (stripStart value).drop (content.length + 2)⟩

theorem equalsAfter?_eq_some_iff :
    equalsAfter? text = some found ↔
      ∃ blanks, (∀ char ∈ blanks, isBlank char = true) ∧ text = blanks ++ '=' :: found.rest ∧
        found.groups = [] := by
  simp only [equalsAfter?, Option.map_eq_some_iff, afterEquals?_eq_some_iff]
  constructor
  · rintro ⟨rest, ⟨blanks, blank, whole⟩, rfl⟩
    exact ⟨blanks, blank, whole, rfl⟩
  · rintro ⟨blanks, blank, whole, ungrouped⟩
    obtain ⟨_, rest⟩ := found
    cases ungrouped
    exact ⟨rest, ⟨blanks, blank, whole⟩, rfl⟩

theorem valueAfter?_eq_some_iff :
    valueAfter? text = some found ↔
      ∃ blanks others content, (∀ char ∈ blanks, isBlank char = true) ∧
        (∀ char ∈ others, isBlank char = true) ∧ content ≠ [] ∧ '"' ∉ content ∧
          text = blanks ++ '=' :: (others ++ '"' :: (content ++ '"' :: found.rest)) ∧
            found.groups = [content] := by
  have left (others content rest : List Char) (blank : ∀ char ∈ others, isBlank char = true) :
      (stripStart (others ++ '"' :: (content ++ '"' :: rest))).drop (content.length + 2) =
        rest := by
    rw [stripStart, dropWhile_of_stops blank (stops_cons isBarrier_quote.notBlank)]
    simp
  simp only [valueAfter?, Option.bind_eq_some_iff, Option.map_eq_some_iff,
    afterEquals?_eq_some_iff, quotedValue?_eq_some_iff]
  constructor
  · rintro ⟨_, ⟨blanks, blank, rfl⟩, content,
      ⟨others, rest, otherBlank, filled, unquoted, rfl⟩, rfl⟩
    rw [left others content rest otherBlank]
    exact ⟨blanks, others, content, blank, otherBlank, filled, unquoted, rfl, rfl⟩
  · rintro ⟨blanks, others, content, blank, otherBlank, filled, unquoted, rfl, grouped⟩
    obtain ⟨_, rest⟩ := found
    cases grouped
    refine ⟨_, ⟨blanks, blank, rfl⟩, content,
      ⟨others, rest, otherBlank, filled, unquoted, rfl⟩, ?_⟩
    rw [left others content rest otherBlank]

/-- What a word and what follows it are matched with. -/
def wordMatch? (follow : List Char → Option Match) (text : List Char) : Option Match :=
  if text.takeWhile isWord = [] then none
  else (follow (text.dropWhile isWord)).map (Match.followedBy ⟨[text.takeWhile isWord], []⟩)

/-- What is matched after a word begins with no character of a word. -/
def EndsWord (follow : List Char → Option Match) : Prop :=
  ∀ text found, follow text = some found →
    Stops isWord text ∧ ∃ passed, text = passed ++ found.rest

variable {follow : List Char → Option Match}

theorem stops_blanks_equals {blanks : List Char} (blank : ∀ char ∈ blanks, isBlank char = true) :
    Stops isWord (blanks ++ '=' :: rest) := by
  cases blanks with
  | nil => exact stops_cons isWord_equals
  | cons char blanks =>
      refine stops_cons ?_
      cases isWordChar : isWord char with
      | false => rfl
      | true =>
          rw [← isBlank_of_isWord isWordChar]
          exact (blank char List.mem_cons_self).symm

theorem endsWord_equalsAfter? : EndsWord equalsAfter? := by
  intro text found follows
  obtain ⟨blanks, blank, rfl, _⟩ := equalsAfter?_eq_some_iff.1 follows
  exact ⟨stops_blanks_equals blank, blanks ++ ['='], by simp⟩

theorem endsWord_valueAfter? : EndsWord valueAfter? := by
  intro text found follows
  obtain ⟨blanks, others, content, blank, _, _, _, rfl, _⟩ := valueAfter?_eq_some_iff.1 follows
  exact ⟨stops_blanks_equals blank, blanks ++ '=' :: (others ++ '"' :: (content ++ ['"'])),
    by simp⟩

theorem wordMatch?_eq_some_iff (ends : EndsWord follow) :
    wordMatch? follow text = some found ↔
      ∃ word rest later, (word ≠ [] ∧ ∀ char ∈ word, isWord char = true) ∧ text = word ++ rest ∧
        follow rest = some later ∧ found = ⟨word :: later.groups, later.rest⟩ := by
  rw [wordMatch?]
  constructor
  · intro matched
    split at matched
    · cases matched
    · next named =>
        obtain ⟨later, follows, rfl⟩ := Option.map_eq_some_iff.1 matched
        exact ⟨_, _, later, ⟨named, fun char => forall_mem_takeWhile⟩,
          List.takeWhile_append_dropWhile.symm, follows, rfl⟩
  · rintro ⟨word, rest, later, ⟨named, written⟩, rfl, follows, rfl⟩
    have stops := (ends rest later follows).1
    rw [takeWhile_of_stops written stops, dropWhile_of_stops written stops, if_neg named, follows]
    rfl

/-! ## The patterns match the same -/

theorem takes_assignedWordPattern_iff :
    assignedWordPattern.Takes text groups ↔
      ∃ word blanks, (word ≠ [] ∧ ∀ char ∈ word, isWord char = true) ∧
        (∀ char ∈ blanks, isBlank char = true) ∧ text = word ++ (blanks ++ ['=']) ∧
          groups = [word] := by
  simp only [assignedWordPattern, Pattern.takes_andThen_iff, Pattern.takes_group_iff,
    Pattern.takes_atLeastOnce_oneOf_iff, Pattern.takes_many_oneOf_iff, Pattern.takes_mark_iff]
  constructor
  · rintro ⟨word, _, _, _, ⟨_, ⟨written, rfl⟩, rfl⟩,
      ⟨blanks, _, _, _, ⟨blank, rfl⟩, ⟨rfl, rfl⟩, rfl, rfl⟩, rfl, rfl⟩
    exact ⟨word, blanks, written, blank, rfl, rfl⟩
  · rintro ⟨word, blanks, written, blank, rfl, rfl⟩
    exact ⟨word, [word], blanks ++ ['='], [], ⟨[], ⟨written, rfl⟩, rfl⟩,
      ⟨blanks, [], ['='], [], ⟨blank, rfl⟩, ⟨rfl, rfl⟩, rfl, rfl⟩, rfl, rfl⟩

theorem takes_quotedAssignmentPattern_iff :
    quotedAssignmentPattern.Takes text groups ↔
      ∃ word blanks others content, (word ≠ [] ∧ ∀ char ∈ word, isWord char = true) ∧
        (∀ char ∈ blanks, isBlank char = true) ∧ (∀ char ∈ others, isBlank char = true) ∧
          content ≠ [] ∧ '"' ∉ content ∧
            text = word ++ (blanks ++ '=' :: (others ++ '"' :: (content ++ ['"']))) ∧
              groups = [word, content] := by
  simp only [quotedAssignmentPattern, Pattern.takes_andThen_iff, takes_assignedWordPattern_iff,
    Pattern.takes_group_iff, Pattern.takes_atLeastOnce_oneOf_iff, Pattern.takes_many_oneOf_iff,
    Pattern.takes_mark_iff, bne_iff_ne, List.forall_mem_ne']
  constructor
  · rintro ⟨_, _, _, _, ⟨word, blanks, written, blank, rfl, rfl⟩, ⟨others, _, _, _,
      ⟨otherBlank, rfl⟩, ⟨_, _, _, _, ⟨rfl, rfl⟩, ⟨content, _, _, _,
        ⟨_, ⟨⟨filled, unquoted⟩, rfl⟩, rfl⟩, ⟨rfl, rfl⟩, rfl, rfl⟩, rfl, rfl⟩, rfl, rfl⟩, rfl, rfl⟩
    exact ⟨word, blanks, others, content, written, blank, otherBlank, filled, unquoted, by simp,
      rfl⟩
  · rintro ⟨word, blanks, others, content, written, blank, otherBlank, filled, unquoted, rfl, rfl⟩
    exact ⟨word ++ (blanks ++ ['=']), [word], others ++ '"' :: (content ++ ['"']), [content],
      ⟨word, blanks, written, blank, rfl, rfl⟩, ⟨others, [], '"' :: (content ++ ['"']), [content],
        ⟨otherBlank, rfl⟩, ⟨['"'], [], content ++ ['"'], [content], ⟨rfl, rfl⟩, ⟨content,
          [content], ['"'], [], ⟨[], ⟨⟨filled, unquoted⟩, rfl⟩, rfl⟩, ⟨rfl, rfl⟩, rfl, rfl⟩, rfl,
            rfl⟩, rfl, rfl⟩, by simp, rfl⟩

theorem match?_assignedWordPattern (text : List Char) :
    assignedWordPattern.match? text = wordMatch? equalsAfter? text := by
  refine Pattern.match?_eq_of_forall fun found => ?_
  simp only [Pattern.mem_matched_iff, takes_assignedWordPattern_iff,
    wordMatch?_eq_some_iff endsWord_equalsAfter?, equalsAfter?_eq_some_iff]
  obtain ⟨groups, rest⟩ := found
  constructor
  · rintro ⟨_, ⟨word, blanks, written, blank, rfl, rfl⟩, rfl⟩
    exact ⟨word, blanks ++ '=' :: rest, ⟨[], rest⟩, written, by simp, ⟨blanks, blank, rfl, rfl⟩,
      rfl⟩
  · rintro ⟨word, _, later, written, rfl, ⟨blanks, blank, rfl, ungrouped⟩, same⟩
    rw [Match.mk.injEq, ungrouped] at same
    obtain ⟨rfl, rfl⟩ := same
    exact ⟨word ++ (blanks ++ ['=']), ⟨word, blanks, written, blank, rfl, rfl⟩, by simp⟩

theorem match?_quotedAssignmentPattern (text : List Char) :
    quotedAssignmentPattern.match? text = wordMatch? valueAfter? text := by
  refine Pattern.match?_eq_of_forall fun found => ?_
  simp only [Pattern.mem_matched_iff, takes_quotedAssignmentPattern_iff,
    wordMatch?_eq_some_iff endsWord_valueAfter?, valueAfter?_eq_some_iff]
  obtain ⟨groups, rest⟩ := found
  constructor
  · rintro ⟨_, ⟨word, blanks, others, content, written, blank, otherBlank, filled, unquoted, rfl,
      rfl⟩, rfl⟩
    exact ⟨word, _, ⟨[content], rest⟩, written, List.append_assoc .., ⟨blanks, others, content,
      blank, otherBlank, filled, unquoted, by simp, rfl⟩, rfl⟩
  · rintro ⟨word, _, later, written, rfl, ⟨blanks, others, content, blank, otherBlank, filled,
      unquoted, rfl, grouped⟩, same⟩
    rw [Match.mk.injEq, grouped] at same
    obtain ⟨rfl, rfl⟩ := same
    exact ⟨_, ⟨word, blanks, others, content, written, blank, otherBlank, filled, unquoted, rfl,
      rfl⟩, by simp⟩

/-! ## Searches -/

section

variable {pattern : Pattern}

/-- A search that passes over what is no word and over words that nothing follows, and reports the
other words with what follows them. -/
structure Searches (follow : List Char → Option Match)
    (search : List Char → List (List (List Char))) : Prop where
  nil : search [] = []
  other : ∀ char rest, isWord char = false → search (char :: rest) = search rest
  passed : ∀ word rest, word ≠ [] → (∀ char ∈ word, isWord char = true) → Stops isWord rest →
    follow rest = none → search (word ++ rest) = search rest
  found : ∀ word rest later, word ≠ [] → (∀ char ∈ word, isWord char = true) →
    Stops isWord rest → follow rest = some later →
      search (word ++ rest) = (word :: later.groups) :: search later.rest

/-- There is one such search. -/
theorem Searches.unique (ends : EndsWord follow) {left right : List Char → List (List (List Char))}
    (leftSearches : Searches follow left) (rightSearches : Searches follow right)
    (text : List Char) : left text = right text := by
  generalize size : text.length = length
  induction length using Nat.strongRecOn generalizing text with
  | ind length induction =>
      have whole := List.takeWhile_append_dropWhile (p := isWord) (l := text)
      have written : ∀ char ∈ text.takeWhile isWord, isWord char = true :=
        fun char => forall_mem_takeWhile
      have stops := stops_dropWhile isWord text
      generalize text.takeWhile isWord = word at whole written
      generalize text.dropWhile isWord = rest at whole stops
      subst whole
      rw [List.length_append] at size
      by_cases named : word = []
      · subst named
        cases rest with
        | nil => exact leftSearches.nil.trans rightSearches.nil.symm
        | cons char rest =>
            have lacks := stops_cons_iff.1 stops
            rw [List.nil_append, leftSearches.other char rest lacks,
              rightSearches.other char rest lacks]
            exact induction rest.length (by simp at size; omega) rest rfl
      · have positive := List.length_pos_iff.2 named
        cases follows : follow rest with
        | none =>
            rw [leftSearches.passed word rest named written stops follows,
              rightSearches.passed word rest named written stops follows]
            exact induction rest.length (by omega) rest rfl
        | some later =>
            obtain ⟨_, passed, split⟩ := ends rest later follows
            rw [leftSearches.found word rest later named written stops follows,
              rightSearches.found word rest later named written stops follows]
            rw [split, List.length_append] at size
            exact congrArg _ (induction later.rest.length (by omega) later.rest rfl)

theorem wordMatch?_append (follow : List Char → Option Match) (named : word ≠ [])
    (written : ∀ char ∈ word, isWord char = true) (stops : Stops isWord rest) :
    wordMatch? follow (word ++ rest) = (follow rest).map (Match.followedBy ⟨[word], []⟩) := by
  rw [wordMatch?, takeWhile_of_stops written stops, dropWhile_of_stops written stops, if_neg named]

/-- A pattern of a word and what follows it is searched for in this way. -/
theorem searches_findAll (ends : EndsWord follow)
    (matched : ∀ text, pattern.match? text = wordMatch? follow text) :
    Searches follow fun text => (pattern.findAll text).map (·.groups) where
  nil := rfl
  other := by
    intro char rest notWord
    have nothing : pattern.match? (char :: rest) = none := by
      rw [matched, wordMatch?, List.takeWhile_cons_of_neg (by simp [notWord]), if_pos rfl]
    simp only [Pattern.findAll, Pattern.findAllFrom, nothing]
  passed := by
    intro word rest named written stops follows
    clear named
    refine congrArg (List.map _) ?_
    induction word with
    | nil => rfl
    | cons char word induction =>
        have nothing : pattern.match? (char :: (word ++ rest)) = none := by
          have none_follows := wordMatch?_append follow (List.cons_ne_nil char word) written stops
          rw [follows] at none_follows
          rw [matched]
          exact none_follows
        rw [List.forall_mem_cons] at written
        simp only [Pattern.findAll, List.cons_append, Pattern.findAllFrom, nothing]
        exact induction written.2
  found := by
    intro word rest later named written stops follows
    obtain ⟨char, others, rfl⟩ := List.exists_cons_of_ne_nil named
    have first := wordMatch?_append follow named written stops
    rw [← matched, follows, List.cons_append] at first
    obtain ⟨_, passed, rfl⟩ := ends rest later follows
    have skipped := @Pattern.findAllFrom_length pattern (others ++ passed) later.rest
    have counted : (others ++ (passed ++ later.rest)).length - later.rest.length =
        (others ++ passed).length := by
      simp only [List.length_append]
      omega
    simp only [Pattern.findAll, List.cons_append, Pattern.findAllFrom, first, Option.map_some,
      List.map_cons, Match.followedBy, counted]
    rw [← List.append_assoc, skipped]
    rfl

theorem searches_assignedWords :
    Searches equalsAfter? fun text => (assignedWords text).map ([·]) where
  nil := rfl
  other := by
    intro char rest notWord
    simp [assignedWords, assignedWordsFrom, notWord]
  passed := by
    intro word rest named written stops follows
    simp only [assignedWords, assignedWordsFrom_append written]
    cases rest with
    | nil => rfl
    | cons char rest =>
        have nothing : afterEquals? (char :: rest) = none := by simpa [equalsAfter?] using follows
        simp [assignedWordsFrom, stops_cons_iff.1 stops, nothing]
  found := by
    intro word rest later named written stops follows
    obtain ⟨blanks, blank, rfl, ungrouped⟩ := equalsAfter?_eq_some_iff.1 follows
    have marks : ∀ char ∈ blanks ++ ['='], isWord char = false := by
      intro char member
      rcases List.mem_append.1 member with inside | inside
      · have stopped := @stops_blanks_equals [] [char] (by simpa using blank char inside)
        exact stops_cons_iff.1 stopped
      · rw [List.mem_singleton.1 inside]
        exact isWord_equals
    have skipped : assignedWordsFrom [] (blanks ++ '=' :: later.rest) =
        assignedWordsFrom [] later.rest := by
      rw [List.append_cons]
      generalize blanks ++ ['='] = between at marks
      induction between with
      | nil => rfl
      | cons char between induction =>
          rw [List.forall_mem_cons] at marks
          simp [assignedWordsFrom, marks.1, induction marks.2]
    simp only [assignedWords, assignedWordsFrom_append written, List.append_nil, ungrouped,
      ← skipped]
    have equals : ∀ char after, blanks ++ '=' :: later.rest = char :: after →
        (afterEquals? (char :: after)).isSome = true := by
      rintro char after whole
      rw [← whole, afterEquals?_eq_some_iff.2 ⟨blanks, blank, rfl⟩]
      rfl
    cases whole : blanks ++ '=' :: later.rest with
    | nil => simp at whole
    | cons char after =>
        rw [whole] at stops
        simp [assignedWordsFrom, stops_cons_iff.1 stops, named, equals char after whole]

theorem searches_quotedAssignments :
    Searches valueAfter? fun text =>
      (quotedAssignments text).map fun assigned => [assigned.1, assigned.2] where
  nil := rfl
  other := by
    intro char rest notWord
    simp [quotedAssignments, quotedAssignmentsFrom, notWord]
  passed := by
    intro word rest named written stops follows
    simp only [quotedAssignments, quotedAssignmentsFrom_append written]
    cases rest with
    | nil => rfl
    | cons char rest =>
        have isOther := stops_cons_iff.1 stops
        cases equals : afterEquals? (char :: rest) with
        | none => simp [quotedAssignmentsFrom, isOther, equals, named]
        | some value =>
            have unquoted : quotedValue? value = none := by
              simpa [valueAfter?, equals] using follows
            simp [quotedAssignmentsFrom, isOther, equals, unquoted, named]
  found := by
    intro word rest later named written stops follows
    obtain ⟨_, passed, split⟩ := endsWord_valueAfter? rest later follows
    obtain ⟨value, equals, quoted⟩ := Option.bind_eq_some_iff.1 follows
    obtain ⟨content, isContent, rfl⟩ := Option.map_eq_some_iff.1 quoted
    cases passed with
    | nil =>
        obtain ⟨blanks, others, content, _, _, _, _, whole, _⟩ := valueAfter?_eq_some_iff.1 follows
        have longer := congrArg List.length (whole.symm.trans split)
        simp only [List.length_append, List.length_cons, List.nil_append] at longer
        omega
    | cons char passed =>
        subst split
        have isOther := stops_cons_iff.1 stops
        have skipped := quotedAssignmentsFrom_length passed
          ((stripStart value).drop (content.length + 2))
        simp only [quotedAssignments, quotedAssignmentsFrom_append written, List.append_nil]
        rw [List.cons_append] at equals ⊢
        simp [quotedAssignmentsFrom, isOther, equals, isContent, named, skipped]

end

/-- Assigned words and quoted assignments are found exactly where their patterns match, from left to
right. -/
theorem assignedWords_quotedAssignments_eq_findAll (text : List Char) :
    (assignedWords text).map ([·]) = (assignedWordPattern.findAll text).map (·.groups) ∧
      ((quotedAssignments text).map fun assigned => [assigned.1, assigned.2]) =
        (quotedAssignmentPattern.findAll text).map (·.groups) :=
  ⟨searches_assignedWords.unique endsWord_equalsAfter?
      (searches_findAll endsWord_equalsAfter? match?_assignedWordPattern) text,
    searches_quotedAssignments.unique endsWord_valueAfter?
      (searches_findAll endsWord_valueAfter? match?_quotedAssignmentPattern) text⟩

end VersionCatalog.Text
