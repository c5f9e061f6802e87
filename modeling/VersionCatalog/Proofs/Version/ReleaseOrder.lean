import Mathlib.Data.List.GetD
import Mathlib.Order.Compare
import Mathlib.Order.PiLex
import VersionCatalog.Version.Release

/-!
# The order of releases

Releases are compared place by place, the shorter one going on with zeros. So each release stands
for an endless sequence of numbers, and releases are compared as those sequences are in the
lexicographic order. What holds of every linear order, such as transitivity, holds of the comparison
though two releases are only ever extended to the length of the longer one. Two releases compare
equal when they stand for one sequence, and then they differ by zeros at the end alone.
-/

namespace VersionCatalog.Version

/-- A release that goes on with zeros without end. -/
def extended (release : List Int) : Lex (Nat → Int) :=
  toLex fun place => release.getD place 0

/-! ## The first place decides, or else the others -/

section Places

variable {left right : List Int}

theorem extended_lt_of_first_lt (below : left.getD 0 0 < right.getD 0 0) :
    extended left < extended right :=
  ⟨0, fun earlier before => absurd before (Nat.not_lt_zero earlier), below⟩

theorem extended_lt_of_tail_lt (same : left.getD 0 0 = right.getD 0 0)
    (below : extended left.tail < extended right.tail) : extended left < extended right := by
  obtain ⟨place, agree, less⟩ := below
  refine ⟨place + 1, ?_, ?_⟩
  · intro earlier before
    cases earlier with
    | zero => exact same
    | succ earlier => simpa [extended] using agree earlier (Nat.lt_of_succ_lt_succ before)
  · simpa [extended] using less

theorem extended_eq_of_tail_eq (same : left.getD 0 0 = right.getD 0 0)
    (agree : extended left.tail = extended right.tail) : extended left = extended right := by
  funext place
  cases place with
  | zero => exact same
  | succ place => simpa [extended] using congrFun agree place

theorem compares_then (left right : List Int) {later : Ordering}
    (compares : later.Compares (extended left.tail) (extended right.tail)) :
    ((compare (left.getD 0 0) (right.getD 0 0)).then later).Compares (extended left)
      (extended right) := by
  cases first : compare (left.getD 0 0) (right.getD 0 0) with
  | lt => exact extended_lt_of_first_lt (compare_lt_iff_lt.1 first)
  | gt => exact extended_lt_of_first_lt (compare_gt_iff_gt.1 first)
  | eq =>
      have same := compare_eq_iff_eq.1 first
      cases later with
      | lt => exact extended_lt_of_tail_lt same compares
      | eq => exact extended_eq_of_tail_eq same compares
      | gt => exact extended_lt_of_tail_lt same.symm compares

end Places

/-! ## Zeros at the end -/

/-- Zeros at the end of a release stand for nothing further. -/
@[simp] theorem extended_append_zeros (release : List Int) (zeros : Nat) :
    extended (release ++ List.replicate zeros 0) = extended release := by
  funext place
  change (release ++ List.replicate zeros 0).getD place 0 = release.getD place 0
  rcases Nat.lt_or_ge place release.length with inside | beyond
  · exact List.getD_append _ _ _ _ inside
  · rw [List.getD_append_right _ _ _ _ beyond, List.getD_eq_default _ _ beyond]
    rcases Nat.lt_or_ge (place - release.length) zeros with among | after
    · exact List.getD_replicate 0 among
    · exact List.getD_eq_default _ _ (by simpa using after)

/-- Releases of one length are told apart by what they stand for. -/
theorem eq_of_extended_eq {left right : List Int} (same : extended left = extended right)
    (sameLength : left.length = right.length) : left = right := by
  refine List.ext_getElem sameLength fun place inLeft inRight => ?_
  have agree : left.getD place 0 = right.getD place 0 := congrFun same place
  rwa [List.getD_eq_getElem _ _ inLeft, List.getD_eq_getElem _ _ inRight] at agree

/-- The longer of two releases that stand for the same is the shorter one with zeros at the end. -/
theorem eq_append_zeros_of_extended_eq {left right : List Int}
    (same : extended left = extended right) (shorter : left.length ≤ right.length) :
    right = left ++ List.replicate (right.length - left.length) 0 := by
  refine eq_of_extended_eq (same.symm.trans (extended_append_zeros left _).symm) ?_
  rw [List.length_append, List.length_replicate, Nat.add_sub_cancel' shorter]

/-- Two releases stand for the same when they differ by zeros at the end alone. -/
theorem extended_eq_iff {left right : List Int} :
    extended left = extended right ↔
      ∃ release lefts rights, left = release ++ List.replicate lefts 0 ∧
        right = release ++ List.replicate rights 0 := by
  constructor
  · intro same
    rcases Nat.le_total left.length right.length with shorter | longer
    · exact ⟨left, 0, _, by simp, eq_append_zeros_of_extended_eq same shorter⟩
    · exact ⟨right, _, 0, eq_append_zeros_of_extended_eq same.symm longer, by simp⟩
  · rintro ⟨release, lefts, rights, rfl, rfl⟩
    rw [extended_append_zeros, extended_append_zeros]

/-! ## Comparing is the order of the extended releases -/

@[simp] theorem extended_padded (width : Nat) (release : List Int) :
    extended (padded width release) = extended release :=
  extended_append_zeros release _

theorem length_padded {width : Nat} {release : List Int} (fits : release.length ≤ width) :
    (padded width release).length = width := by
  rw [padded, List.length_append, List.length_replicate, Nat.add_sub_cancel' fits]

/-- Where both sides have equally many places, neither of them ends first. -/
theorem compares_compareNumbers {left right : List Int} (sameLength : left.length = right.length) :
    (compareNumbers left right).Compares (extended left) (extended right) := by
  induction left generalizing right with
  | nil =>
      obtain rfl := List.length_eq_zero_iff.1 sameLength.symm
      rfl
  | cons number left induction =>
      cases right with
      | nil => cases sameLength
      | cons other right =>
          exact compares_then (number :: left) (other :: right)
            (induction (Nat.succ.inj sameLength))

/-- Two releases compare as they do when both go on with zeros. -/
theorem compares_compareReleases (left right : List Int) :
    (compareReleases left right).Compares (extended left) (extended right) := by
  have leftFits := length_padded (Nat.le_max_left left.length right.length)
  have rightFits := length_padded (Nat.le_max_right left.length right.length)
  have compares := compares_compareNumbers (leftFits.trans rightFits.symm)
  rwa [extended_padded, extended_padded] at compares

/-- Releases are compared place by place, though their widths are not those of what is left. -/
theorem compareReleases_eq_then (left right : List Int) :
    compareReleases left right =
      (compare (left.getD 0 0) (right.getD 0 0)).then (compareReleases left.tail right.tail) :=
  (compares_compareReleases left right).inj
    (compares_then left right (compares_compareReleases left.tail right.tail))

theorem compareReleases_cons_cons (left right : Int) (lefts rights : List Int) :
    compareReleases (left :: lefts) (right :: rights) =
      (compare left right).then (compareReleases lefts rights) :=
  compareReleases_eq_then (left :: lefts) (right :: rights)

/-- Only what releases stand for counts when they are compared. -/
theorem compareReleases_congr {left right otherLeft otherRight : List Int}
    (sameLeft : extended left = extended otherLeft)
    (sameRight : extended right = extended otherRight) :
    compareReleases left right = compareReleases otherLeft otherRight := by
  have compares := compares_compareReleases left right
  rw [sameLeft, sameRight] at compares
  exact compares.inj (compares_compareReleases otherLeft otherRight)

/-- Comparing the other way round turns the outcome round. -/
theorem compareReleases_swap (left right : List Int) :
    (compareReleases left right).swap = compareReleases right left :=
  (Ordering.compares_swap.2 (compares_compareReleases left right)).inj
    (compares_compareReleases right left)

/-- What is not above a release is not above anything that this release is not above. -/
theorem compareReleases_ne_gt_trans {lower middle upper : List Int}
    (first : compareReleases lower middle ≠ .gt) (second : compareReleases middle upper ≠ .gt) :
    compareReleases lower upper ≠ .gt := by
  rw [(compares_compareReleases _ _).ne_gt] at first second ⊢
  exact first.trans second

/-- Two releases compare equal when they differ by zeros at the end alone. -/
theorem compareReleases_eq_iff (left right : List Int) :
    compareReleases left right = .eq ↔
      ∃ release lefts rights, left = release ++ List.replicate lefts 0 ∧
        right = release ++ List.replicate rights 0 := by
  rw [(compares_compareReleases left right).eq_eq, extended_eq_iff]

/-- What is not above a release is below all that this release is below. -/
theorem compareReleases_lt_of_ne_gt {lower upper least : List Int}
    (lowered : compareReleases lower upper ≠ .gt) (below : compareReleases upper least = .lt) :
    compareReleases lower least = .lt := by
  rw [(compares_compareReleases _ _).ne_gt] at lowered
  rw [(compares_compareReleases _ _).eq_lt] at below ⊢
  exact lowered.trans_lt below

/-- No release is below zero, its numbers being natural. -/
theorem compareReleases_zero_ne_lt (values : List Nat) :
    compareReleases (values.map Int.ofNat) [0] ≠ .lt := by
  rw [(compares_compareReleases _ _).ne_lt]
  refine Pi.toLex_monotone fun place => ?_
  have zero : [(0 : Int)].getD place 0 = 0 := by cases place <;> simp
  have natural : (values.map Int.ofNat).getD place 0 = Int.ofNat (values.getD place 0) :=
    List.getD_map values 0 Int.ofNat
  rw [zero, natural]
  exact Int.natCast_nonneg _

/-- Comparing releases is the lexicographic order of the releases that go on with zeros without
end. So it turns round with its sides, it is transitive whatever the lengths are, zeros at the end
of either side make no difference, and nothing else compares equal. -/
theorem compareReleases_zeroExtended (left right : List Int) :
    (compareReleases left right).Compares (extended left) (extended right) ∧
      compareReleases left right = (compareReleases right left).swap ∧
      (∀ upper, compareReleases left right ≠ .gt → compareReleases right upper ≠ .gt →
        compareReleases left upper ≠ .gt) ∧
      (∀ zeros, compareReleases (left ++ List.replicate zeros 0) right =
        compareReleases left right) ∧
      (∀ zeros, compareReleases left (right ++ List.replicate zeros 0) =
        compareReleases left right) ∧
      (compareReleases left right = .eq ↔
        ∃ release lefts rights, left = release ++ List.replicate lefts 0 ∧
          right = release ++ List.replicate rights 0) := by
  refine ⟨compares_compareReleases left right, (compareReleases_swap right left).symm, ?_, ?_, ?_,
    compareReleases_eq_iff left right⟩
  · intro upper first second
    exact compareReleases_ne_gt_trans first second
  · intro zeros
    exact compareReleases_congr (extended_append_zeros left zeros) rfl
  · intro zeros
    exact compareReleases_congr rfl (extended_append_zeros right zeros)

end VersionCatalog.Version
