/-!
# Fields between separators, and phrases inside a text

A text is cut at every occurrence of a separator, which gives one field more than there are
separators. Joining the fields again gives the text back.
-/

namespace VersionCatalog.Text

/-- The fields of a text between the occurrences of a separator; there is always at least one. -/
def fields (separator : Char) : List Char → List (List Char)
  | [] => [[]]
  | char :: text =>
      if char = separator then [] :: fields separator text
      else
        match fields separator text with
        | [] => [[char]]
        | field :: others => (char :: field) :: others

/-- Whether a phrase stands somewhere in a text. -/
def mentions (phrase : List Char) : List Char → Bool
  | [] => phrase.isEmpty
  | char :: text => phrase.isPrefixOf (char :: text) || mentions phrase text

/-- The fields of a text are what a list is split into at the separator. -/
theorem fields_eq_splitOn (separator : Char) (text : List Char) :
    fields separator text = text.splitOn separator := by
  induction text with
  | nil => rfl
  | cons char text induction =>
      rw [List.splitOn_cons_eq_if_modifyHead, fields, induction]
      cases found : text.splitOn separator with
      | nil => exact (List.splitOn_ne_nil separator text found).elim
      | cons field others => simp

theorem fields_ne_nil (separator : Char) (text : List Char) : fields separator text ≠ [] := by
  rw [fields_eq_splitOn]
  exact List.splitOn_ne_nil separator text

/-- Joining the fields of a text at the separator gives the text. -/
theorem intercalate_fields (separator : Char) (text : List Char) :
    [separator].intercalate (fields separator text) = text := by
  rw [fields_eq_splitOn, List.intercalate_splitOn]

/-- Cutting joined pieces gives the pieces back, if the separator stands in none of them. -/
theorem fields_intercalate {separator : Char} {pieces : List (List Char)}
    (nonempty : pieces ≠ []) (free : ∀ piece ∈ pieces, separator ∉ piece) :
    fields separator ([separator].intercalate pieces) = pieces := by
  rw [fields_eq_splitOn, List.splitOn_intercalate separator free nonempty]

/-- No field has the separator. -/
theorem separator_notMem_of_mem_fields {separator : Char} {text field : List Char}
    (member : field ∈ fields separator text) : separator ∉ field := by
  induction text generalizing field with
  | nil => simp_all [fields]
  | cons char text induction =>
      simp only [fields] at member
      split at member
      · rcases List.mem_cons.1 member with rfl | later
        · simp
        · exact induction later
      · next other =>
          cases found : fields separator text with
          | nil => exact (fields_ne_nil separator text found).elim
          | cons first others =>
              rw [found] at member induction
              rcases List.mem_cons.1 member with rfl | later
              · have free := induction List.mem_cons_self
                simp [free, Ne.symm other]
              · exact induction (List.mem_cons_of_mem _ later)

/-- The characters of joined pieces are the separator and those of the pieces. -/
theorem mem_intercalate {separator char : Char} {pieces : List (List Char)}
    (member : char ∈ [separator].intercalate pieces) :
    char = separator ∨ ∃ piece ∈ pieces, char ∈ piece := by
  induction pieces with
  | nil => simp at member
  | cons first pieces induction =>
      cases pieces with
      | nil => exact .inr ⟨first, List.mem_cons_self, by simpa using member⟩
      | cons second pieces =>
          rw [List.intercalate_cons_cons, List.mem_append, List.mem_append,
            List.mem_singleton] at member
          rcases member with (inside | rfl) | later
          · exact .inr ⟨first, List.mem_cons_self, inside⟩
          · exact .inl rfl
          · rcases induction later with same | ⟨piece, within, inside⟩
            · exact .inl same
            · exact .inr ⟨piece, List.mem_cons_of_mem _ within, inside⟩

theorem mem_of_mem_fields {separator char : Char} {text field : List Char}
    (member : field ∈ fields separator text) (inside : char ∈ field) : char ∈ text := by
  induction text generalizing field with
  | nil => simp_all [fields]
  | cons first text induction =>
      simp only [fields] at member
      split at member
      · rcases List.mem_cons.1 member with rfl | later
        · simp at inside
        · exact List.mem_cons_of_mem _ (induction later inside)
      · cases found : fields separator text with
        | nil => exact (fields_ne_nil separator text found).elim
        | cons field others =>
            rw [found] at member induction
            rcases List.mem_cons.1 member with rfl | later
            · rcases List.mem_cons.1 inside with rfl | within
              · exact List.mem_cons_self
              · exact List.mem_cons_of_mem _ (induction List.mem_cons_self within)
            · exact List.mem_cons_of_mem _ (induction (List.mem_cons_of_mem _ later) inside)

theorem mentions_eq_true_iff {phrase text : List Char} :
    mentions phrase text = true ↔ ∃ before after, text = before ++ phrase ++ after := by
  induction text with
  | nil => simp [mentions]
  | cons char text induction =>
      simp only [mentions, Bool.or_eq_true, induction, List.isPrefixOf_iff_prefix]
      constructor
      · rintro (⟨after, whole⟩ | ⟨before, after, whole⟩)
        · exact ⟨[], after, by simpa using whole.symm⟩
        · exact ⟨char :: before, after, by simp [whole]⟩
      · rintro ⟨before, after, whole⟩
        cases before with
        | nil => exact .inl ⟨after, by simpa using whole.symm⟩
        | cons first before =>
            simp only [List.cons_append, List.cons.injEq] at whole
            exact .inr ⟨before, after, whole.2⟩

end VersionCatalog.Text
