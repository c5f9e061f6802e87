import Mathlib.Data.List.Basic
import Mathlib.Data.List.Induction
import VersionCatalog.Occurrence

/-!
# Elements with those before them

Whether an element occurs for the first time depends on the elements before it. `withEarlier` sets
those beside it, so that first and later occurrences can be told place by place: a list that goes on
with one more element has the occurrences that it had before, and possibly this one. `InFirstOrder`
says without places which list results when some of the elements are kept, each of them once.
-/

namespace VersionCatalog

variable {α β : Type}

/-- The elements in order, each with those before it. -/
def withEarlier (elements : List α) : List (List α × α) :=
  elements.mapIdx fun place element => (elements.take place, element)

@[simp] theorem withEarlier_nil : withEarlier ([] : List α) = [] := rfl

@[simp] theorem withEarlier_append_singleton (elements : List α) (last : α) :
    withEarlier (elements ++ [last]) = withEarlier elements ++ [(elements, last)] := by
  have front : (elements.mapIdx fun place element => ((elements ++ [last]).take place, element)) =
      withEarlier elements := by
    refine List.ext_getElem (by simp [withEarlier]) fun place inside _ => ?_
    rw [List.length_mapIdx] at inside
    simp [withEarlier, List.take_append_of_le_length (Nat.le_of_lt inside)]
  rw [withEarlier, List.mapIdx_concat, front, List.take_left]

theorem withEarlier_cons (first : α) (elements : List α) :
    withEarlier (first :: elements) =
      ([], first) :: (withEarlier elements).map fun (earlier, element) =>
        (first :: earlier, element) := by
  rw [withEarlier, List.mapIdx_cons]
  refine congrArg (_ :: ·) (List.ext_getElem (by simp [withEarlier]) fun place _ _ => ?_)
  simp [withEarlier]

theorem withEarlier_map (transform : α → β) (elements : List α) :
    withEarlier (elements.map transform) =
      (withEarlier elements).map fun (earlier, element) =>
        (earlier.map transform, transform element) := by
  induction elements using List.reverseRecOn with
  | nil => rfl
  | append_singleton elements last induction => simp [induction]

section Occurrences

variable [DecidableEq α]

theorem laterOccurrencesAfter_append_singleton (seen elements : List α) (last : α) :
    laterOccurrencesAfter seen (elements ++ [last]) =
      laterOccurrencesAfter seen elements ++
        if last ∈ seen ∨ last ∈ elements then [last] else [] := by
  induction elements generalizing seen with
  | nil => simp [laterOccurrencesAfter]
  | cons first elements induction =>
      simp only [List.cons_append, laterOccurrencesAfter]
      split <;> simp only [induction, List.mem_cons, List.cons_append] <;> grind

/-- The later occurrences are those that stand among the elements before them. -/
theorem laterOccurrences_eq (elements : List α) :
    laterOccurrences elements =
      ((withEarlier elements).filter fun (earlier, element) => element ∈ earlier).map Prod.snd := by
  induction elements using List.reverseRecOn with
  | nil => rfl
  | append_singleton elements last induction =>
      rw [laterOccurrences, laterOccurrencesAfter_append_singleton, ← laterOccurrences, induction]
      by_cases again : last ∈ elements
      · simp [again]
      · simp [again]

/-- An element is repeated as often as it occurs, its first occurrence aside. -/
theorem count_laterOccurrences (elements : List α) (element : α) :
    (laterOccurrences elements).count element = elements.count element - 1 := by
  induction elements using List.reverseRecOn with
  | nil => rfl
  | append_singleton elements last induction =>
      rw [laterOccurrences, laterOccurrencesAfter_append_singleton, ← laterOccurrences,
        List.count_append, List.count_append, induction]
      by_cases again : last ∈ elements
      · have before := List.count_pos_iff.2 again
        by_cases same : last = element
        · simp only [← same, again, or_true, if_true, List.count_singleton_self]
          omega
        · simp [again, same]
      · by_cases same : last = element
        · subst same
          simp [again, List.count_eq_zero_of_not_mem again]
        · simp [again, same]

theorem firstOccurrencesAfter_append_singleton (seen elements : List α) (last : α) :
    firstOccurrencesAfter seen (elements ++ [last]) =
      firstOccurrencesAfter seen elements ++
        if last ∈ seen ∨ last ∈ elements then [] else [last] := by
  induction elements generalizing seen with
  | nil => simp [firstOccurrencesAfter]
  | cons first elements induction =>
      simp only [List.cons_append, firstOccurrencesAfter]
      split <;> simp only [induction, List.mem_cons, List.cons_append] <;> grind

theorem firstOccurrences_append_singleton (elements : List α) (last : α) :
    firstOccurrences (elements ++ [last]) =
      firstOccurrences elements ++ if last ∈ elements then [] else [last] := by
  simp [firstOccurrences, firstOccurrencesAfter_append_singleton]

/-- The elements of a list with a property, each of them once, in the order in which they first
occur. -/
structure InFirstOrder (holds : α → Prop) (elements kept : List α) : Prop where
  mem_iff (element : α) : element ∈ kept ↔ element ∈ elements ∧ holds element
  /-- No element comes twice, and one that occurs earlier in the list comes earlier. -/
  ordered : kept.Pairwise fun left right => elements.idxOf left < elements.idxOf right

theorem pairwise_firstOccurrences (elements : List α) :
    (firstOccurrences elements).Pairwise fun left right =>
      elements.idxOf left < elements.idxOf right := by
  induction elements using List.reverseRecOn with
  | nil => exact .nil
  | append_singleton elements last induction =>
      -- A further element moves no first occurrence.
      have front : (firstOccurrences elements).Pairwise fun left right =>
          (elements ++ [last]).idxOf left < (elements ++ [last]).idxOf right := by
        refine induction.imp_of_mem fun left right before => ?_
        rw [mem_firstOccurrences] at left right
        rwa [List.idxOf_append_of_mem left, List.idxOf_append_of_mem right]
      rw [firstOccurrences_append_singleton]
      split
      · rwa [List.append_nil]
      · next fresh =>
          refine List.pairwise_append.2 ⟨front, List.pairwise_singleton _ _, ?_⟩
          intro other member final same
          rw [mem_firstOccurrences] at member
          rw [List.mem_singleton.1 same, List.idxOf_append_of_mem member,
            List.idxOf_append_of_notMem fresh]
          exact Nat.lt_of_lt_of_le (List.idxOf_lt_length_of_mem member) (Nat.le_add_right _ _)

/-- Of two first occurrences, the later one does not occur before the earlier one. -/
theorem pairwise_firstOccurrences_split (elements : List α) :
    (firstOccurrences elements).Pairwise fun left right =>
      left ≠ right ∧ ∃ before after, elements = before ++ left :: after ∧ right ∉ before := by
  refine (pairwise_firstOccurrences elements).imp_of_mem fun {left right} member _ earlier => ?_
  refine ⟨fun same => Nat.ne_of_lt earlier (same ▸ rfl), ?_⟩
  obtain ⟨before, after, split, fresh⟩ :=
    List.eq_append_cons_of_mem (mem_firstOccurrences.1 member)
  refine ⟨before, after, split, fun inside => ?_⟩
  rw [split, List.idxOf_append_of_notMem fresh, List.idxOf_append_of_mem inside] at earlier
  have place := List.idxOf_lt_length_of_mem inside
  omega

theorem firstOccurrences_of_nodup {elements : List α} (distinct : elements.Nodup) :
    firstOccurrences elements = elements := by
  induction elements using List.reverseRecOn with
  | nil => rfl
  | append_singleton elements last induction =>
      rw [List.nodup_append] at distinct
      have fresh : last ∉ elements := fun member =>
        distinct.2.2 last member last (List.mem_singleton.2 rfl) rfl
      rw [firstOccurrences_append_singleton, if_neg fresh, induction distinct.1]

theorem inFirstOrder_filter {holds : α → Prop} {keep : α → Bool}
    (decides : ∀ element, keep element = true ↔ holds element) (elements : List α) :
    InFirstOrder holds elements ((firstOccurrences elements).filter keep) where
  mem_iff element := by rw [List.mem_filter, mem_firstOccurrences, decides]
  ordered := (pairwise_firstOccurrences elements).filter keep

end Occurrences

end VersionCatalog
