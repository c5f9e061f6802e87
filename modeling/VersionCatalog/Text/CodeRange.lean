/-!
# Sets of characters as ranges of code points

A property of characters is given by a table of inclusive ranges in ascending order. Membership
reads the table from the left and stops at the first range that begins beyond the code point.
-/

namespace VersionCatalog.Text

/-- Inclusive ranges of code points, in ascending order. -/
abbrev CodeRanges := List (Nat × Nat)

namespace CodeRanges

/-- Whether a code point lies in one of the ranges. -/
def has : CodeRanges → Nat → Bool
  | [], _ => false
  | (first, last) :: ranges, code =>
      if code < first then false else code ≤ last || has ranges code

/-- A code point that the table has lies in one of its ranges. -/
theorem exists_of_has {ranges : CodeRanges} {code : Nat} (member : ranges.has code = true) :
    ∃ range ∈ ranges, range.1 ≤ code ∧ code ≤ range.2 := by
  induction ranges with
  | nil => simp [has] at member
  | cons range ranges induction =>
      obtain ⟨first, last⟩ := range
      by_cases before : code < first
      · simp [has, before] at member
      · simp only [has, before, if_false, Bool.or_eq_true, decide_eq_true_eq] at member
        rcases member with inside | later
        · exact ⟨(first, last), by simp, by simpa using before, inside⟩
        · obtain ⟨range, within, bounds⟩ := induction later
          exact ⟨range, List.mem_cons_of_mem _ within, bounds⟩

end CodeRanges

end VersionCatalog.Text
