import Mathlib.Data.List.Count
import VersionCatalog.Rule.Keys
import VersionCatalog.Proofs.Occurrence
import VersionCatalog.Proofs.Text.Assignment

/-!
# Keys that are assigned to again

An equals sign assigns to the word before it, and white space may stand between them. The search for
assigned words goes forward and looks ahead from the end of every word; `assignedWords_eq` says that
it finds what looking back from every equals sign gives. In the scope of the document, the rule on
repeated keys therefore reports the equals signs whose key was assigned to before.
-/

namespace VersionCatalog

namespace Text

/-- The word at the end of a text, which white space may follow. -/
def lastWord? (text : List Char) : Option (List Char) :=
  let word := ((text.reverse.dropWhile isBlank).takeWhile isWord).reverse
  if word.isEmpty then none else some word

/-- The words before the equals signs of a text that comes after another one. Equals signs without a
word before them are passed over. -/
def wordsBeforeEquals (before text : List Char) : List (List Char) :=
  (withEarlier text).filterMap fun (passed, char) =>
    if char = '=' then lastWord? (before ++ passed) else none

/-- The keys of the equals signs in a text, in order. -/
def equalsKeys (text : List Char) : List String :=
  (wordsBeforeEquals [] text).map String.ofList

variable {before rest : List Char} {char : Char}

theorem wordsBeforeEquals_cons (before : List Char) (char : Char) (rest : List Char) :
    wordsBeforeEquals before (char :: rest) =
      (if char = '=' then lastWord? before else none).toList ++
        wordsBeforeEquals (before ++ [char]) rest := by
  rw [wordsBeforeEquals, withEarlier_cons, List.filterMap_cons, List.filterMap_map,
    wordsBeforeEquals]
  simp only [Function.comp_def, List.append_nil, List.append_assoc, List.singleton_append]
  cases (if char = '=' then lastWord? before else none) <;> rfl

/-! ## The word at the end of a text -/

/-- The word that is not yet ended where a text ends, in reverse. -/
def openWord (text : List Char) : List Char :=
  text.reverse.takeWhile isWord

theorem openWord_append_word (word : isWord char = true) (before : List Char) :
    openWord (before ++ [char]) = char :: openWord before := by
  simp [openWord, word]

theorem openWord_append_other (notWord : isWord char = false) (before : List Char) :
    openWord (before ++ [char]) = [] := by
  simp [openWord, notWord]

theorem lastWord?_of_openWord (inside : openWord before ≠ []) :
    lastWord? before = some (openWord before).reverse := by
  have unblank : before.reverse.dropWhile isBlank = before.reverse := by
    rw [openWord] at inside
    cases backward : before.reverse with
    | nil => rfl
    | cons char others =>
        rw [backward, List.takeWhile_cons] at inside
        split at inside
        · next word => simp [isBlank_of_isWord word]
        · contradiction
  rw [openWord] at inside ⊢
  simp [lastWord?, unblank, inside]

theorem lastWord?_append_blank (blank : isBlank char = true) (before : List Char) :
    lastWord? (before ++ [char]) = lastWord? before := by
  simp [lastWord?, blank]

/-- No word is at the end of a text that ends with any other mark. -/
theorem lastWord?_append_mark (notWord : isWord char = false) (notBlank : isBlank char = false)
    (before : List Char) : lastWord? (before ++ [char]) = none := by
  simp [lastWord?, notWord, notBlank]

/-! ## Looking ahead and looking back -/

theorem afterEquals?_cons_equals (rest : List Char) : afterEquals? ('=' :: rest) = some rest :=
  rfl

theorem afterEquals?_cons_blank (blank : isBlank char = true) (rest : List Char) :
    afterEquals? (char :: rest) = afterEquals? rest := by
  simp [afterEquals?, stripStart, blank]

theorem afterEquals?_cons_mark (notBlank : isBlank char = false) (notEquals : char ≠ '=')
    (rest : List Char) : afterEquals? (char :: rest) = none := by
  simp [afterEquals?, stripStart, notBlank, notEquals]

/-- From any place in a text, looking back from the equals signs gives what the search still finds.
Behind the end of a word, the search has looked ahead and found its equals sign already. -/
theorem wordsBeforeEquals_eq (before text : List Char) :
    wordsBeforeEquals before text =
      (if openWord before = [] ∧ (afterEquals? text).isSome then lastWord? before
        else none).toList ++ assignedWordsFrom (openWord before) text := by
  induction text generalizing before with
  | nil => simp [wordsBeforeEquals, assignedWordsFrom, afterEquals?, stripStart]
  | cons char rest induction =>
      rw [wordsBeforeEquals_cons, induction]
      by_cases word : isWord char = true
      · have notEquals : char ≠ '=' := by
          rintro rfl
          simp [isWord_equals] at word
        have ahead := afterEquals?_cons_mark (isBlank_of_isWord word) notEquals rest
        simp [assignedWordsFrom, word, notEquals, ahead, openWord_append_word word]
      · rw [Bool.not_eq_true] at word
        -- A word may end here, or may have ended before.
        have last := @lastWord?_of_openWord before
        rw [openWord_append_other word, assignedWordsFrom]
        by_cases equals : char = '='
        · have unblank : isBlank char = false := by
            subst equals
            decide
          rw [lastWord?_append_mark word unblank]
          subst equals
          by_cases inside : openWord before = []
          · simp [word, inside, afterEquals?_cons_equals]
          · simp [word, inside, afterEquals?_cons_equals, last inside]
        · by_cases blank : isBlank char = true
          · rw [lastWord?_append_blank blank, afterEquals?_cons_blank blank]
            by_cases inside : openWord before = []
            · simp [word, inside, equals]
            · by_cases ahead : (afterEquals? rest).isSome = true
              · simp [word, inside, equals, ahead, last inside]
              · simp [word, inside, equals, ahead]
          · rw [Bool.not_eq_true] at blank
            rw [lastWord?_append_mark word blank, afterEquals?_cons_mark blank equals]
            simp [word, equals]

/-- The words that are found are those before the equals signs. -/
theorem assignedWords_eq (text : List Char) :
    (assignedWords text).map String.ofList = equalsKeys text := by
  have found := wordsBeforeEquals_eq [] text
  simp only [openWord, lastWord?, List.reverse_nil, List.dropWhile_nil, List.takeWhile_nil,
    List.isEmpty_nil, if_true, ite_self, Option.toList_none, List.nil_append] at found
  rw [equalsKeys, found, assignedWords]

end Text

namespace Rule

/-- The error for a key that is assigned to again. -/
def repeatedKey (key : String) : Finding where
  rule := "duplicate_keys"
  severity := .error
  message := "Duplicate key: " ++ key
  hint := some "Remove or rename the repeated declaration; the first one is used"

theorem repeatedKey_injective : Function.Injective repeatedKey := by
  intro left right same
  exact (String.append_right_inj _).1 (congrArg Finding.message same)

/-- In the scope of the document, one error is reported for every equals sign whose key is that of
an earlier one, in order, and nothing else is. A key is thus reported once less than it is
assigned to. -/
theorem duplicateKeys_document (text : List Char) (catalog : Catalog) :
    ∃ findings, duplicateKeys.check ⟨text, catalog, .document⟩ = .ok findings ∧
      findings = ((withEarlier (Text.equalsKeys text)).filter fun (earlier, key) =>
        key ∈ earlier).map (fun (_, key) => repeatedKey key) ∧
      ∀ key, findings.count (repeatedKey key) = (Text.equalsKeys text).count key - 1 := by
  have checked : duplicateKeys.check ⟨text, catalog, .document⟩ =
      .ok ((laterOccurrences (Text.equalsKeys text)).map repeatedKey) := by
    rw [← Text.assignedWords_eq]
    rfl
  refine ⟨_, checked, ?_, ?_⟩
  · rw [laterOccurrences_eq, List.map_map]
    rfl
  · intro key
    rw [List.count_map_of_injective _ _ repeatedKey_injective, count_laterOccurrences]

/-- White space before an equals sign may cross lines, and only a word before it counts. -/
example : Text.equalsKeys "a\n=\n== b.c \t= a=".toList = ["a", "c", "a"] := by
  decide +kernel

end Rule

end VersionCatalog
