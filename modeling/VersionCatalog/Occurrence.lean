/-!
# First and later occurrences

A list splits into the first occurrences of its elements and the later ones. Both keep the order of
the list.
-/

namespace VersionCatalog

variable {α : Type} [DecidableEq α]

/-- The elements that occurred before, either among those seen or earlier in the list. -/
def laterOccurrencesAfter (seen : List α) : List α → List α
  | [] => []
  | element :: rest =>
      if element ∈ seen then element :: laterOccurrencesAfter seen rest
      else laterOccurrencesAfter (element :: seen) rest

/-- The elements that occurred earlier in the list, each once for every repetition. -/
def laterOccurrences (elements : List α) : List α :=
  laterOccurrencesAfter [] elements

/-- The elements that occurred neither among those seen nor earlier in the list. -/
def firstOccurrencesAfter (seen : List α) : List α → List α
  | [] => []
  | element :: rest =>
      if element ∈ seen then firstOccurrencesAfter seen rest
      else element :: firstOccurrencesAfter (element :: seen) rest

/-- Every element once, where it occurs first. -/
def firstOccurrences (elements : List α) : List α :=
  firstOccurrencesAfter [] elements

theorem mem_firstOccurrencesAfter {seen elements : List α} {element : α} :
    element ∈ firstOccurrencesAfter seen elements ↔ element ∈ elements ∧ element ∉ seen := by
  induction elements generalizing seen with
  | nil => simp [firstOccurrencesAfter]
  | cons first rest induction =>
      simp only [firstOccurrencesAfter]
      split <;> simp only [induction, List.mem_cons] <;> grind

@[simp] theorem mem_firstOccurrences {elements : List α} {element : α} :
    element ∈ firstOccurrences elements ↔ element ∈ elements := by
  simp [firstOccurrences, mem_firstOccurrencesAfter]

theorem nodup_firstOccurrencesAfter (seen elements : List α) :
    (firstOccurrencesAfter seen elements).Nodup := by
  induction elements generalizing seen with
  | nil => exact List.nodup_nil
  | cons first rest induction =>
      simp only [firstOccurrencesAfter]
      split
      · exact induction seen
      · exact List.nodup_cons.2 ⟨by simp [mem_firstOccurrencesAfter], induction _⟩

theorem nodup_firstOccurrences (elements : List α) : (firstOccurrences elements).Nodup :=
  nodup_firstOccurrencesAfter [] elements

end VersionCatalog
