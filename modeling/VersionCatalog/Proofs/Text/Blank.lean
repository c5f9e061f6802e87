import VersionCatalog.Text.Alphanumeric
import VersionCatalog.Text.Blank
import VersionCatalog.Text.Digit
import VersionCatalog.Proofs.Text.Span

/-!
# White space apart from words

No white-space character is alphanumeric or a digit. A text is blank exactly when nothing is left of
it once the white space around it is removed. Nothing can be removed twice.
-/

namespace VersionCatalog.Text

/-- The code points that a table of ranges has, one by one. -/
def CodeRanges.codes (ranges : CodeRanges) : List Nat :=
  ranges.flatMap fun (first, last) => List.range' first (last + 1 - first)

theorem CodeRanges.mem_codes_of_has {ranges : CodeRanges} {code : Nat}
    (member : ranges.has code = true) : code ∈ ranges.codes := by
  obtain ⟨range, within, low, high⟩ := exists_of_has member
  refine List.mem_flatMap.2 ⟨range, within, ?_⟩
  rw [List.mem_range'_1]
  omega

theorem isAlphanumeric_of_isBlank {char : Char} (blank : isBlank char = true) :
    isAlphanumeric char = false := by
  have apart : ∀ code ∈ blankRanges.codes, alphanumericRanges.has code = false := by
    decide +kernel
  exact apart _ (CodeRanges.mem_codes_of_has blank)

theorem digitValue?_of_isBlank {char : Char} (blank : isBlank char = true) :
    digitValue? char = none := by
  have apart : ∀ code ∈ blankRanges.codes,
      (digitZeros.find? fun origin => origin ≤ code && code < origin + 10) = none := by
    decide +kernel
  rw [digitValue?, apart _ (CodeRanges.mem_codes_of_has blank)]
  rfl

theorem isBlank_of_isDigit {char : Char} (digit : isDigit char = true) : isBlank char = false := by
  rw [Bool.eq_false_iff]
  intro blank
  rw [isDigit, digitValue?_of_isBlank blank] at digit
  cases digit

theorem stripEnd_eq_nil_iff {text : List Char} : stripEnd text = [] ↔ isBlankText text = true := by
  induction text with
  | nil => simp [stripEnd, isBlankText]
  | cons char text induction =>
      rw [stripEnd]
      split
      · next nothing =>
          have rest := induction.1 nothing
          simp only [isBlankText] at rest
          simp [isBlankText, rest]
      · next kept something =>
          have rest : ¬isBlankText text = true := fun blank => something (induction.2 blank)
          simp only [isBlankText] at rest
          simp [isBlankText, rest]

/-- Nothing is left of a text without its white space exactly when it is blank. -/
theorem strip_eq_nil_iff {text : List Char} : strip text = [] ↔ isBlankText text = true := by
  rw [strip, stripEnd_eq_nil_iff, stripStart]
  induction text with
  | nil => rfl
  | cons char text induction =>
      rw [List.dropWhile_cons]
      split
      · next blank => simpa [isBlankText, blank] using induction
      · rfl

/-- Nothing is removed from a text without white space. -/
theorem strip_of_unblank {text : List Char} (visible : ∀ char ∈ text, isBlank char = false) :
    strip text = text := by
  have ending : stripEnd text = text := by
    induction text with
    | nil => rfl
    | cons char text induction =>
        rw [List.forall_mem_cons] at visible
        rw [stripEnd, induction visible.2]
        cases text with
        | nil => simp [visible.1]
        | cons second text => rfl
  rw [strip, stripStart]
  cases text with
  | nil => rfl
  | cons char text =>
      rw [List.dropWhile_cons_of_neg (by simp [visible char List.mem_cons_self]), ending]

/-- White space at the end does not count. -/
theorem stripEnd_append_blank {char : Char} (blank : isBlank char = true) (text : List Char) :
    stripEnd (text ++ [char]) = stripEnd text := by
  induction text with
  | nil => simp [stripEnd, blank]
  | cons first text induction => rw [List.cons_append, stripEnd, stripEnd, induction]

theorem strip_append_blank {char : Char} (blank : isBlank char = true) (text : List Char) :
    strip (text ++ [char]) = strip text := by
  simp only [strip, stripStart, List.dropWhile_append]
  split
  · next nothing =>
      rw [List.isEmpty_iff.1 nothing, List.dropWhile_cons_of_pos blank]
      rfl
  · exact stripEnd_append_blank blank _

theorem strip_append_blanks {blanks : List Char} (blank : ∀ char ∈ blanks, isBlank char = true)
    (text : List Char) : strip (text ++ blanks) = strip text := by
  induction blanks generalizing text with
  | nil => rw [List.append_nil]
  | cons char blanks induction =>
      rw [List.forall_mem_cons] at blank
      rw [List.append_cons, induction blank.2, strip_append_blank blank.1]

theorem stripEnd_of_ne_nil {char : Char} {text : List Char} (kept : stripEnd text ≠ []) :
    stripEnd (char :: text) = char :: stripEnd text := by
  rw [stripEnd]
  split
  · next nothing => exact (kept nothing).elim
  · rfl

/-- White space after a visible character is removed, and all before that character stays. -/
theorem stripEnd_append_cons {char : Char} (visible : isBlank char = false)
    (front text : List Char) :
    stripEnd (front ++ char :: text) = front ++ char :: stripEnd text := by
  induction front with
  | nil =>
      rw [List.nil_append, List.nil_append, stripEnd]
      split
      · next nothing => simp [visible, nothing]
      · rfl
  | cons first front induction =>
      rw [List.cons_append, stripEnd_of_ne_nil (by simp [induction]), induction, List.cons_append]

theorem strip_append_cons {char : Char} {front : List Char}
    (unblank : ∀ first ∈ front, isBlank first = false) (visible : isBlank char = false)
    (text : List Char) : strip (front ++ char :: text) = front ++ char :: stripEnd text := by
  have started : stripStart (front ++ char :: text) = front ++ char :: text := by
    cases front with
    | nil => exact List.dropWhile_cons_of_neg (by simp [visible])
    | cons first front =>
        exact List.dropWhile_cons_of_neg (by simp [unblank first List.mem_cons_self])
  rw [strip, started, stripEnd_append_cons visible]

theorem stripEnd_stripEnd (text : List Char) : stripEnd (stripEnd text) = stripEnd text := by
  induction text with
  | nil => rfl
  | cons char text induction =>
      by_cases nothing : stripEnd text = []
      · rw [stripEnd, nothing]
        by_cases blank : isBlank char = true
        · simp [blank, stripEnd]
        · simp [blank, stripEnd]
      · rw [stripEnd_of_ne_nil nothing, stripEnd_of_ne_nil, induction]
        rwa [induction]

/-- A text keeps its first character when that is not white space. -/
theorem head?_stripEnd {char : Char} (visible : isBlank char = false) (text : List Char) :
    (stripEnd (char :: text)).head? = some char := by
  rw [stripEnd]
  split
  · simp [visible]
  · rfl

/-- The white space around a text is removed at once. -/
theorem strip_strip (text : List Char) : strip (strip text) = strip text := by
  have kept : stripStart (strip text) = strip text := by
    rw [strip]
    have lacks := stops_dropWhile isBlank text
    rw [← stripStart] at lacks
    cases started : stripStart text with
    | nil => rfl
    | cons char rest =>
        rw [started, stops_cons_iff] at lacks
        obtain ⟨others, first⟩ := List.head?_eq_some_iff.1 (head?_stripEnd lacks rest)
        rw [first, stripStart, List.dropWhile_cons_of_neg (by simp [lacks])]
  rw [strip, kept, strip, stripEnd_stripEnd]

theorem stripEnd_sublist (text : List Char) : (stripEnd text).Sublist text := by
  induction text with
  | nil => exact .slnil
  | cons char text induction =>
      by_cases nothing : stripEnd text = []
      · rw [stripEnd, nothing]
        by_cases blank : isBlank char = true
        · simp [blank]
        · simp [blank]
      · rw [stripEnd_of_ne_nil nothing]
        exact induction.cons_cons char

theorem strip_sublist (text : List Char) : (strip text).Sublist text :=
  (stripEnd_sublist _).trans (List.dropWhile_sublist isBlank)

/-- A trimmed text does not end in a line feed. -/
theorem strip_ne_append_newline (text line : List Char) : strip text ≠ line ++ ['\n'] := by
  intro trimmed
  have again := strip_strip text
  rw [trimmed, strip_append_blank (by decide)] at again
  have longer := congrArg List.length again
  have shorter := (strip_sublist line).length_le
  rw [List.length_append, List.length_singleton] at longer
  omega

end VersionCatalog.Text
