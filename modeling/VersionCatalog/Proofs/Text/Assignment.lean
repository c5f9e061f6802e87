import VersionCatalog.Text.Assignment
import VersionCatalog.Proofs.Text.Blank

/-!
# What a search for assignments finds

The search for assignments reads every word to its end and looks at what follows. A barrier, which
is a mark that can stand neither in a word nor between a word and its equals sign, ends a piece of
text without equals signs in which nothing is found. An assignment on one line is found whatever
comes after it, and the search goes on behind it.
-/

namespace VersionCatalog.Text

variable {word front value rest : List Char} {barrier : Char}

theorem isBlank_of_isWord {char : Char} (isWord : isWord char = true) : isBlank char = false := by
  cases blank : isBlank char with
  | false => rfl
  | true =>
      rw [Text.isWord, isAlphanumeric_of_isBlank blank, Bool.false_or, beq_iff_eq] at isWord
      subst isWord
      revert blank
      decide

/-- A mark that can stand neither in a word nor between a word and its equals sign. -/
structure IsBarrier (char : Char) : Prop where
  notWord : isWord char = false
  notBlank : isBlank char = false
  notEquals : char ≠ '='

theorem isBarrier_quote : IsBarrier '"' :=
  ⟨by decide +kernel, by decide, by decide⟩

theorem isBarrier_bracket : IsBarrier ']' :=
  ⟨by decide +kernel, by decide, by decide⟩

/-- No equals sign follows where a barrier comes first. -/
theorem afterEquals?_append_barrier (bars : IsBarrier barrier) (unequal : '=' ∉ front)
    (rest : List Char) : afterEquals? (front ++ barrier :: rest) = none := by
  induction front with
  | nil => simp [afterEquals?, stripStart, bars.notBlank, bars.notEquals]
  | cons char front induction =>
      rw [List.mem_cons, not_or] at unequal
      by_cases blank : isBlank char = true
      · have skipped : stripStart (char :: front ++ barrier :: rest) =
            stripStart (front ++ barrier :: rest) := List.dropWhile_cons_of_pos blank
        rw [afterEquals?, skipped]
        exact induction unequal.2
      · simp [afterEquals?, stripStart, blank, Ne.symm unequal.1]

/-! ## Assigned words -/

theorem assignedWordsFrom_append (written : ∀ char ∈ front, isWord char = true)
    (word rest : List Char) :
    assignedWordsFrom word (front ++ rest) = assignedWordsFrom (front.reverse ++ word) rest := by
  induction front generalizing word with
  | nil => rfl
  | cons char front induction =>
      rw [List.forall_mem_cons] at written
      rw [List.cons_append, assignedWordsFrom, if_pos written.1, induction written.2]
      simp

/-- Nothing is found up to a barrier where there is no equals sign. -/
theorem assignedWordsFrom_append_barrier (bars : IsBarrier barrier) (unequal : '=' ∉ front)
    (word rest : List Char) :
    assignedWordsFrom word (front ++ barrier :: rest) = assignedWordsFrom [] rest := by
  induction front generalizing word with
  | nil =>
      have nothing := @afterEquals?_append_barrier [] barrier bars List.not_mem_nil rest
      rw [List.nil_append] at nothing ⊢
      simp [assignedWordsFrom, bars.notWord, nothing]
  | cons char front induction =>
      have nothing := afterEquals?_append_barrier bars unequal rest
      rw [List.mem_cons, not_or] at unequal
      rw [List.cons_append] at nothing ⊢
      simp only [assignedWordsFrom, nothing, induction unequal.2]
      simp

/-! ## Quoted assignments -/

theorem quotedAssignmentsFrom_append (written : ∀ char ∈ front, isWord char = true)
    (word rest : List Char) :
    quotedAssignmentsFrom 0 word (front ++ rest) =
      quotedAssignmentsFrom 0 (front.reverse ++ word) rest := by
  induction front generalizing word with
  | nil => rfl
  | cons char front induction =>
      rw [List.forall_mem_cons] at written
      simp [quotedAssignmentsFrom, written.1, induction written.2]

/-- Nothing is found up to a barrier where there is no equals sign. -/
theorem quotedAssignmentsFrom_append_barrier (bars : IsBarrier barrier) (unequal : '=' ∉ front)
    (word rest : List Char) :
    quotedAssignmentsFrom 0 word (front ++ barrier :: rest) =
      quotedAssignmentsFrom 0 [] rest := by
  induction front generalizing word with
  | nil =>
      have nothing := @afterEquals?_append_barrier [] barrier bars List.not_mem_nil rest
      rw [List.nil_append] at nothing ⊢
      simp [quotedAssignmentsFrom, bars.notWord, nothing]
  | cons char front induction =>
      have nothing := afterEquals?_append_barrier bars unequal rest
      rw [List.mem_cons, not_or] at unequal
      rw [List.cons_append] at nothing ⊢
      simp only [quotedAssignmentsFrom, nothing, induction unequal.2]
      simp

/-- The characters of an assignment that was found are passed over. -/
theorem quotedAssignmentsFrom_length (passed rest : List Char) :
    quotedAssignmentsFrom passed.length [] (passed ++ rest) =
      quotedAssignmentsFrom 0 [] rest := by
  induction passed with
  | nil => rfl
  | cons char passed induction =>
      rw [List.cons_append, List.length_cons, quotedAssignmentsFrom]
      exact induction

/-! ## Assignments on one line -/

/-- An assignment of a quoted value to a word, on one line. -/
def assignment (word value : List Char) : List Char :=
  word ++ [' ', '=', ' ', '"'] ++ value ++ ['"']

theorem afterEquals?_assignment (value : List Char) :
    afterEquals? (' ' :: '=' :: value) = some value := by
  rfl

theorem isWord_space : isWord ' ' = false := by
  decide +kernel

theorem isWord_equals : isWord '=' = false := by
  decide +kernel

theorem quotedValue?_quoted (nonempty : value ≠ []) (unquoted : '"' ∉ value) (rest : List Char) :
    quotedValue? (' ' :: '"' :: (value ++ '"' :: rest)) = some value := by
  have inside : ∀ char ∈ value, (char != '"') = true := by
    intro char member
    rw [bne_iff_ne]
    rintro rfl
    exact unquoted member
  have skipped : stripStart (' ' :: '"' :: (value ++ '"' :: rest)) =
      '"' :: (value ++ '"' :: rest) := by
    simp [stripStart, show isBlank ' ' = true by decide, isBarrier_quote.notBlank]
  have taken : (value ++ '"' :: rest).takeWhile (· != '"') = value :=
    takeWhile_of_stops inside (stops_cons rfl)
  simp only [quotedValue?, skipped, taken]
  simp [nonempty]

/-- The word of an assignment is found, and the search goes on behind the value. -/
theorem assignedWordsFrom_assignment (written : ∀ char ∈ word, isWord char = true)
    (named : word ≠ []) (unequal : '=' ∉ value) (rest : List Char) :
    assignedWordsFrom [] (assignment word value ++ rest) =
      word :: assignedWordsFrom [] rest := by
  have whole : assignment word value ++ rest =
      word ++ ' ' :: '=' :: ' ' :: '"' :: (value ++ '"' :: rest) := by
    simp [assignment]
  have found := assignedWordsFrom_append_barrier isBarrier_quote unequal [] rest
  rw [whole, assignedWordsFrom_append written]
  simp [assignedWordsFrom, isWord_space, isWord_equals, isBarrier_quote.notWord,
    afterEquals?_assignment, named, found]

/-- An assignment is found with its value, and the search goes on behind the value. -/
theorem quotedAssignmentsFrom_assignment (written : ∀ char ∈ word, isWord char = true)
    (named : word ≠ []) (nonempty : value ≠ []) (unquoted : '"' ∉ value) (rest : List Char) :
    quotedAssignmentsFrom 0 [] (assignment word value ++ rest) =
      (word, value) :: quotedAssignmentsFrom 0 [] rest := by
  have whole : assignment word value ++ rest =
      word ++ ' ' :: '=' :: ' ' :: '"' :: (value ++ '"' :: rest) := by
    simp [assignment]
  have found := quotedValue?_quoted nonempty unquoted rest
  -- What is passed over is the rest of the assignment, from its equals sign on.
  have skipped : ((stripStart (' ' :: '"' :: (value ++ '"' :: rest))).drop
      (value.length + 2)).length = rest.length := by
    simp [stripStart, show isBlank ' ' = true by decide, isBarrier_quote.notBlank]
  have passed := quotedAssignmentsFrom_length ('=' :: ' ' :: '"' :: (value ++ ['"'])) rest
  have counted : ('=' :: ' ' :: '"' :: (value ++ '"' :: rest)).length - rest.length =
      ('=' :: ' ' :: '"' :: (value ++ ['"'])).length := by
    simp
    omega
  rw [whole, quotedAssignmentsFrom_append written, quotedAssignmentsFrom]
  simp only [List.append_nil, isWord_space, afterEquals?_assignment, found, skipped, counted]
  simpa [named] using passed

end VersionCatalog.Text
