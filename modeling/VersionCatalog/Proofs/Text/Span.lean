/-!
# Spans

The span of a property is the longest front of a text whose characters all have it. A text that
`Stops` the property ends every span before it, so that neither the span nor what follows it depends
on what the text goes on with.
-/

namespace VersionCatalog.Text

variable {taken : Char → Bool} {text content rest later : List Char}

/-- The text is empty, or its first character lacks the property. -/
def Stops (taken : Char → Bool) (text : List Char) : Prop :=
  ∀ char, text.head? = some char → taken char = false

theorem stops_nil : Stops taken [] := by
  intro char first
  contradiction

@[simp] theorem stops_cons_iff {char : Char} :
    Stops taken (char :: rest) ↔ taken char = false := by
  simp [Stops]

theorem stops_cons {char : Char} (lacks : taken char = false) : Stops taken (char :: rest) :=
  stops_cons_iff.2 lacks

theorem stops_dropWhile (taken : Char → Bool) (text : List Char) :
    Stops taken (text.dropWhile taken) := by
  induction text with
  | nil => exact stops_nil
  | cons char text induction =>
      rw [List.dropWhile_cons]
      split
      · exact induction
      · next lacks => simpa using lacks

theorem forall_mem_takeWhile {char : Char} (member : char ∈ text.takeWhile taken) :
    taken char = true :=
  List.all_eq_true.1 List.all_takeWhile char member

/-- The span of a text is its front, if what follows stops it. -/
theorem takeWhile_of_stops (front : ∀ char ∈ content, taken char = true)
    (stops : Stops taken rest) : (content ++ rest).takeWhile taken = content := by
  rw [List.takeWhile_append_of_pos front]
  cases rest with
  | nil => simp
  | cons char rest => simp [stops_cons_iff.1 stops]

theorem dropWhile_of_stops (front : ∀ char ∈ content, taken char = true)
    (stops : Stops taken rest) : (content ++ rest).dropWhile taken = rest := by
  rw [List.dropWhile_append_of_pos front]
  cases rest with
  | nil => rfl
  | cons char rest => simp [stops_cons_iff.1 stops]

/-- A text that is no such character with others does not begin with it. -/
theorem head?_ne_of_forall {char : Char} (unopened : ∀ others, text = char :: others → False) :
    text.head? ≠ some char := by
  intro first
  obtain ⟨others, opened⟩ := List.head?_eq_some_iff.1 first
  exact unopened others opened

theorem drop_length_takeWhile (taken : Char → Bool) (text : List Char) :
    text.drop (text.takeWhile taken).length = text.dropWhile taken := by
  conv => lhs; rw [← List.takeWhile_append_dropWhile (p := taken) (l := text)]
  rw [takeWhile_of_stops (fun _ => forall_mem_takeWhile) (stops_dropWhile taken text)]
  exact List.drop_left

/-- A span does not change when its text goes on with something that stops it. -/
theorem takeWhile_append_of_stops (stops : Stops taken later) :
    (text ++ later).takeWhile taken = text.takeWhile taken := by
  have split := List.takeWhile_append_dropWhile (p := taken) (l := text)
  conv => lhs; rw [← split, List.append_assoc]
  refine takeWhile_of_stops (fun _ => forall_mem_takeWhile) ?_
  cases left : text.dropWhile taken with
  | nil => exact stops
  | cons char left => simpa [left] using stops_dropWhile taken text

theorem dropWhile_append_of_stops (stops : Stops taken later) :
    (text ++ later).dropWhile taken = text.dropWhile taken ++ later := by
  have whole := List.takeWhile_append_dropWhile (p := taken) (l := text ++ later)
  have split := List.takeWhile_append_dropWhile (p := taken) (l := text)
  rw [takeWhile_append_of_stops stops] at whole
  apply (List.append_right_inj (text.takeWhile taken)).1
  rw [whole, ← List.append_assoc, split]

/-- What a text goes on with opens nothing that the text itself does not open, when it begins with
no character of what would be opened. -/
theorem isPrefixOf_append {front : List Char} (differs : ∀ char ∈ front, later.head? ≠ some char)
    (text : List Char) : front.isPrefixOf (text ++ later) = front.isPrefixOf text := by
  induction front generalizing text with
  | nil => simp
  | cons char front induction =>
      rw [List.forall_mem_cons] at differs
      cases text with
      | nil =>
          cases later with
          | nil => rfl
          | cons first later =>
              have other : (char == first) = false := by
                rw [beq_eq_false_iff_ne]
                rintro rfl
                exact differs.1 rfl
              rw [List.nil_append, List.isPrefixOf_cons_cons, other, Bool.false_and]
              rfl
      | cons first text =>
          rw [List.cons_append, List.isPrefixOf_cons_cons, List.isPrefixOf_cons_cons,
            induction differs.2 text]

end VersionCatalog.Text
