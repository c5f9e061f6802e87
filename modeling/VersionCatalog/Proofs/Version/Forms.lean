import Mathlib.Data.List.Basic
import VersionCatalog.Proofs.Text.Pattern
import VersionCatalog.Proofs.Version.NumericRelease
import VersionCatalog.Version.Grammar

/-!
# The languages of the forms of a version

A version has one of three forms: numbers between dots with an optional suffix, two numbers and a
plus sign between dots, or a range between brackets. Here each form is given as a language, without
the reader. The reader is shown to accept exactly the lines of the three languages, a line feed at
the end not counting, and no line belongs to two of them.
-/

namespace VersionCatalog

namespace Text

/-- The text is this line, with or without a line feed after it. -/
def IsLineOf (line text : List Char) : Prop :=
  '\n' ∉ line ∧ (text = line ∨ text = line ++ ['\n'])

theorem dropFinalNewline_append (line : List Char) : dropFinalNewline (line ++ ['\n']) = line := by
  simp [dropFinalNewline]

theorem dropFinalNewline_of_notMem {line : List Char} (oneLine : '\n' ∉ line) :
    dropFinalNewline line = line := by
  rw [dropFinalNewline, if_neg]
  intro last
  exact oneLine (List.mem_of_getLast? last)

/-- The only line that a text can be is what is left of it without a final line feed. -/
theorem isLineOf_iff {line text : List Char} :
    IsLineOf line text ↔ '\n' ∉ line ∧ dropFinalNewline text = line := by
  refine and_congr_right fun oneLine => ?_
  constructor
  · rintro (rfl | rfl)
    · exact dropFinalNewline_of_notMem oneLine
    · exact dropFinalNewline_append line
  · rintro rfl
    rw [dropFinalNewline]
    split
    · next last => exact .inr (List.dropLast_append_getLast? _ last).symm
    · exact .inl rfl

/-- A property of single lines holds of the line of a text exactly when it holds without the final
line feed. -/
theorem exists_isLineOf_iff {property : List Char → Prop} {text : List Char}
    (oneLine : ∀ line, property line → '\n' ∉ line) :
    (∃ line, IsLineOf line text ∧ property line) ↔ property (dropFinalNewline text) := by
  simp only [isLineOf_iff]
  constructor
  · rintro ⟨_, ⟨_, rfl⟩, holds⟩
    exact holds
  · intro holds
    exact ⟨_, ⟨oneLine _ holds, rfl⟩, holds⟩

/-- A pattern that describes single lines matches up to the end of a text exactly when the text is
such a line. -/
theorem isSome_matchLine?_iff_isLineOf {pattern : Pattern} {property : List Char → Prop}
    {text : List Char}
    (describes : ∀ line groups, pattern.Takes line groups ↔ property line ∧ groups = [])
    (oneLine : ∀ line, property line → '\n' ∉ line) :
    (pattern.matchLine? text).isSome = true ↔ ∃ line, IsLineOf line text ∧ property line := by
  simp only [Pattern.isSome_matchLine?_iff, describes]
  constructor
  · rintro ⟨line, _, ⟨holds, rfl⟩, whole⟩
    exact ⟨line, ⟨oneLine line holds, whole⟩, holds⟩
  · rintro ⟨line, ⟨_, whole⟩, holds⟩
    exact ⟨line, [], ⟨holds, rfl⟩, whole⟩

end Text

namespace Version

open Text

/-- The forms of a version. -/
inductive Form where
  | semantic
  | wildcard
  | range
deriving DecidableEq, Repr

/-- A run of decimal digits that is not empty. -/
structure IsNumber (number : List Char) : Prop where
  nonempty : number ≠ []
  digits : ∀ char ∈ number, isDigit char = true

/-- What may follow the numbers of a semantic version. -/
inductive IsSemanticSuffix : List Char → Prop where
  /-- Nothing. -/
  | absent : IsSemanticSuffix []
  /-- A hyphen or a plus sign, and at least one more character. -/
  | signed {sign first : Char} {others : List Char} (opens : sign = '-' ∨ sign = '+') :
      IsSemanticSuffix (sign :: first :: others)

/-- A text belongs to the language of a form. -/
inductive Fits : Form → List Char → Prop where
  /-- One, two or three numbers between dots, and a suffix. -/
  | semantic {numbers : List (List Char)} {suffix : List Char} (least : numbers ≠ [])
      (most : numbers.length ≤ 3) (written : ∀ number ∈ numbers, IsNumber number)
      (ends : IsSemanticSuffix suffix) : Fits .semantic (['.'].intercalate numbers ++ suffix)
  /-- Two numbers and a plus sign between dots. -/
  | wildcard {major minor : List Char} (majorWritten : IsNumber major)
      (minorWritten : IsNumber minor) : Fits .wildcard (major ++ '.' :: minor ++ ['.', '+'])
  /-- Digits, dots and commas, at least one of them, between an opening and a closing bracket. -/
  | range {opening closing : Char} {bounds : List Char} (opens : opening = '[' ∨ opening = '(')
      (filled : bounds ≠ [])
      (written : ∀ char ∈ bounds, isDigit char = true ∨ char = '.' ∨ char = ',')
      (closes : closing = ']' ∨ closing = ')') : Fits .range (opening :: bounds ++ [closing])

variable {line suffix : List Char} {form left right : Form}

/-! ## Semantic versions -/

theorem forall_isNumber_iff {numbers : List (List Char)} :
    (∀ number ∈ numbers, IsNumber number) ↔
      [] ∉ numbers ∧ ∀ number ∈ numbers, ∀ char ∈ number, isDigit char = true := by
  constructor
  · intro written
    exact ⟨fun empty => (written [] empty).nonempty rfl,
      fun number member => (written number member).digits⟩
  · rintro ⟨filled, digits⟩ number member
    exact ⟨fun empty => filled (empty ▸ member), digits number member⟩

theorem IsSemanticSuffix.isReleaseSuffix (ends : IsSemanticSuffix suffix)
    (oneLine : '\n' ∉ suffix) : IsReleaseSuffix suffix := by
  cases ends with
  | absent => exact .absent
  | signed opens => exact .signed opens (List.not_mem_of_not_mem_cons oneLine)

theorem IsSemanticSuffix.stops (ends : IsSemanticSuffix suffix) :
    Stops (fun char => isDigit char || char == '.') suffix := by
  cases ends with
  | absent => exact stops_nil
  | signed opens =>
      rw [stops_cons_iff]
      rcases opens with rfl | rfl <;> decide

theorem isSuffix_one_iff :
    isSuffix 1 suffix = true ↔ IsSemanticSuffix suffix ∧ '\n' ∉ suffix := by
  constructor
  · intro holds
    cases suffix with
    | nil => exact ⟨.absent, List.not_mem_nil⟩
    | cons sign text =>
        obtain ⟨opens, filled, oneLine⟩ := isSuffix_cons_iff.1 holds
        obtain ⟨first, others, rfl⟩ := List.exists_cons_of_length_pos filled
        refine ⟨.signed opens, List.not_mem_cons_of_ne_of_not_mem ?_ oneLine⟩
        rcases opens with rfl | rfl <;> decide
  · rintro ⟨ends, oneLine⟩
    cases ends with
    | absent => rfl
    | signed opens =>
        exact isSuffix_cons_iff.2 ⟨opens, by simp, List.not_mem_of_not_mem_cons oneLine⟩

theorem newline_notMem_intercalate {numbers : List (List Char)}
    (written : ∀ number ∈ numbers, IsNumber number) : '\n' ∉ ['.'].intercalate numbers := by
  intro inside
  have kept := digit_or_dot_of_mem_intercalate (forall_isNumber_iff.1 written).2 _ inside
  revert kept
  decide

theorem isSemantic_iff : isSemantic line = true ↔ Fits .semantic line ∧ '\n' ∉ line := by
  constructor
  · intro holds
    simp only [isSemantic, Bool.and_eq_true] at holds
    obtain ⟨suffixed, counted⟩ := holds
    split at counted
    · next numbers found =>
        obtain ⟨ends, oneLine⟩ := isSuffix_one_iff.1 suffixed
        have release := numbers?_eq_some_iff.1
          ⟨isSuffix_zero_iff.2 (ends.isReleaseSuffix oneLine), found⟩
        have written := forall_isNumber_iff.2 ⟨release.written, release.digits⟩
        have whole := intercalate_fields_append_suffixPart line
        rw [(numbers?_eq_some_iff_fields.1 found).1] at whole
        rw [← whole, List.mem_append, not_or]
        exact ⟨.semantic release.nonempty (of_decide_eq_true counted) written ends,
          newline_notMem_intercalate written, oneLine⟩
    · cases counted
  · rintro ⟨fits, oneLine⟩
    cases fits with
    | @semantic numbers suffix least most written ends =>
        rw [List.mem_append, not_or] at oneLine
        obtain ⟨filled, digits⟩ := forall_isNumber_iff.1 written
        obtain ⟨parts, rest⟩ := parts_of_intercalate_append least digits ends.stops
        rw [isSemantic, rest, isSuffix_one_iff.2 ⟨ends, oneLine.2⟩,
          numbers?_eq_some_iff_fields.2 ⟨parts, filled⟩]
        exact decide_eq_true most

/-! ## Wildcards and ranges -/

/-- What is found before and after the suffix of a wildcard. -/
theorem parts_of_wildcard {major minor : List Char} (majorWritten : IsNumber major)
    (minorWritten : IsNumber minor) :
    fields '.' (numberedPart (major ++ '.' :: minor ++ ['.', '+'])) = [major, minor, []] ∧
      suffixPart (major ++ '.' :: minor ++ ['.', '+']) = ['+'] := by
  have joined : major ++ '.' :: minor ++ ['.', '+'] =
      ['.'].intercalate [major, minor, []] ++ ['+'] := by simp
  have digits : ∀ number ∈ [major, minor, []], ∀ char ∈ number, isDigit char = true := by
    simpa using ⟨majorWritten.digits, minorWritten.digits⟩
  rw [joined]
  exact parts_of_intercalate_append (List.cons_ne_nil _ _) digits (stops_cons (by decide))

theorem isWildcard_iff : isWildcard line = true ↔ Fits .wildcard line := by
  constructor
  · intro holds
    simp only [isWildcard, Bool.and_eq_true, beq_iff_eq] at holds
    obtain ⟨plus, filled⟩ := holds
    split at filled
    · next major minor parts =>
        simp only [Bool.and_eq_true, Bool.not_eq_true', List.isEmpty_eq_false_iff] at filled
        have digits := @digit_of_mem_fields line
        have whole := intercalate_fields_append_suffixPart line
        rw [parts] at digits whole
        rw [plus] at whole
        have written : line = major ++ '.' :: minor ++ ['.', '+'] := by
          rw [← whole]
          simp
        rw [written]
        exact .wildcard ⟨filled.1, digits (by simp)⟩ ⟨filled.2, digits (by simp)⟩
    · cases filled
  · intro fits
    cases fits with
    | wildcard majorWritten minorWritten =>
        obtain ⟨parts, rest⟩ := parts_of_wildcard majorWritten minorWritten
        rw [isWildcard, parts, rest]
        simp [majorWritten.nonempty, minorWritten.nonempty]

theorem isRangeChar_iff {char : Char} :
    isRangeChar char = true ↔ isDigit char = true ∨ char = '.' ∨ char = ',' := by
  simp only [isRangeChar, Bool.or_eq_true, beq_iff_eq, or_assoc]

theorem isRange_iff : isRange line = true ↔ Fits .range line := by
  constructor
  · intro holds
    cases line with
    | nil => cases holds
    | cons opening rest =>
        simp only [isRange, Bool.and_eq_true, Bool.or_eq_true, beq_iff_eq, Bool.not_eq_true',
          List.isEmpty_eq_false_iff] at holds
        obtain ⟨⟨opens, filled⟩, closed⟩ := holds
        split at closed
        · next closing ends =>
            simp only [Bool.or_eq_true, beq_iff_eq] at closed
            have whole := List.takeWhile_append_dropWhile (p := isRangeChar) (l := rest)
            rw [ends] at whole
            rw [← whole]
            refine .range opens filled (fun char member => ?_) closed
            exact isRangeChar_iff.1 (forall_mem_takeWhile member)
        · cases closed
  · intro fits
    cases fits with
    | @range opening closing bounds opens filled written closes =>
        have stops : Stops isRangeChar [closing] := by
          rw [stops_cons_iff]
          rcases closes with rfl | rfl <;> decide
        have passed : ∀ char ∈ bounds, isRangeChar char = true :=
          fun char member => isRangeChar_iff.2 (written char member)
        rw [List.cons_append, isRange, takeWhile_of_stops passed stops,
          dropWhile_of_stops passed stops]
        simp [opens, filled, closes]

/-! ## The three languages together -/

/-- What wildcards and ranges are written with, beside digits. -/
def marks : List Char := ['.', ',', '+', '[', '(', ']', ')']

theorem Fits.mem_cases (fits : Fits form line) (bare : form ≠ .semantic) {char : Char}
    (member : char ∈ line) : isDigit char = true ∨ char ∈ marks := by
  cases fits with
  | semantic => exact (bare rfl).elim
  | wildcard majorWritten minorWritten =>
      simp only [List.mem_append, List.mem_cons, List.not_mem_nil, or_false] at member
      rcases member with (inside | rfl | inside) | rfl | rfl
      · exact .inl (majorWritten.digits char inside)
      · simp [marks]
      · exact .inl (minorWritten.digits char inside)
      · simp [marks]
      · simp [marks]
  | range opens filled written closes =>
      simp only [List.mem_append, List.mem_cons, List.not_mem_nil, or_false] at member
      rcases member with (rfl | inside) | rfl
      · rcases opens with rfl | rfl <;> simp [marks]
      · rcases written char inside with digit | rfl | rfl
        · exact .inl digit
        · simp [marks]
        · simp [marks]
      · rcases closes with rfl | rfl <;> simp [marks]

theorem Fits.newline_notMem (fits : Fits form line) (bare : form ≠ .semantic) : '\n' ∉ line := by
  intro member
  have written := fits.mem_cases bare member
  revert written
  decide

/-- The only form that a line can have: the fields between the dots before its suffix tell it. -/
def formOf (line : List Char) : Form :=
  let parts := fields '.' (numberedPart line)
  if [] ∉ parts then .semantic else if parts = [[]] then .range else .wildcard

theorem Fits.eq_formOf (fits : Fits form line) : form = formOf line := by
  cases fits with
  | semantic least most written ends =>
      obtain ⟨filled, digits⟩ := forall_isNumber_iff.1 written
      rw [formOf, (parts_of_intercalate_append least digits ends.stops).1]
      exact (if_pos filled).symm
  | wildcard majorWritten minorWritten =>
      rw [formOf, (parts_of_wildcard majorWritten minorWritten).1]
      simp
  | range opens =>
      rcases opens with rfl | rfl <;> rfl

theorem Fits.unique (leftFits : Fits left line) (rightFits : Fits right line) : left = right :=
  leftFits.eq_formOf.trans rightFits.eq_formOf.symm

theorem isVersion_iff_exists_line {text : String} :
    isVersion text = true ↔ ∃ line, IsLineOf line text.toList ∧
      (Fits .semantic line ∨ Fits .wildcard line ∨ Fits .range line) := by
  simp only [isVersion, Bool.or_eq_true, isSemantic_iff, isWildcard_iff, isRange_iff, isLineOf_iff]
  constructor
  · rintro ((⟨semantic, oneLine⟩ | wildcard) | range)
    · exact ⟨_, ⟨oneLine, rfl⟩, .inl semantic⟩
    · exact ⟨_, ⟨wildcard.newline_notMem nofun, rfl⟩, .inr (.inl wildcard)⟩
    · exact ⟨_, ⟨range.newline_notMem nofun, rfl⟩, .inr (.inr range)⟩
  · rintro ⟨_, ⟨oneLine, rfl⟩, semantic | wildcard | range⟩
    · exact .inl (.inl ⟨semantic, oneLine⟩)
    · exact .inl (.inr wildcard)
    · exact .inr range

/-- A text is a version exactly when it is a line of one of the three languages, with or without a
line feed after it. No line belongs to two of them. -/
theorem isVersion_iff_exists_fits (text : String) :
    (isVersion text = true ↔ ∃ line, IsLineOf line text.toList ∧
      (Fits .semantic line ∨ Fits .wildcard line ∨ Fits .range line)) ∧
    ∀ line, ¬(Fits .semantic line ∧ Fits .wildcard line) ∧
      ¬(Fits .semantic line ∧ Fits .range line) ∧ ¬(Fits .wildcard line ∧ Fits .range line) := by
  refine ⟨isVersion_iff_exists_line, fun line => ⟨?_, ?_, ?_⟩⟩
  · rintro ⟨semantic, wildcard⟩
    cases semantic.unique wildcard
  · rintro ⟨semantic, range⟩
    cases semantic.unique range
  · rintro ⟨wildcard, range⟩
    cases wildcard.unique range

end Version

end VersionCatalog
