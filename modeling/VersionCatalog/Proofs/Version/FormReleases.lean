import Mathlib.Data.List.Induction
import Mathlib.Data.Nat.Digits.Defs
import VersionCatalog.Proofs.Text.Blank
import VersionCatalog.Proofs.Version.Forms

/-!
# The releases of the three forms

The reader of releases has a grammar of its own beside those of the three forms: it removes white
space, allows any count of numbers, and is content with a bare sign after them. The two fit together
all the same. Every semantic version has a release of at most three numbers, and no other version
has one.
-/

namespace VersionCatalog.Version

open Text

/-- What digits amount to in the decimal system, the last one being that of the ones. -/
def decimalValue (digits : List Char) : Nat :=
  Nat.ofDigits 10 (digits.reverse.map fun digit => (digitValue? digit).getD 0)

theorem numeral_eq_decimalValue (digits : List Char) : numeral digits = decimalValue digits := by
  induction digits using List.reverseRecOn with
  | nil => rfl
  | append_singleton digits digit induction =>
      rw [numeral, List.foldl_append, ← numeral, induction, decimalValue, decimalValue,
        List.reverse_append, List.reverse_singleton, List.singleton_append, List.map_cons,
        Nat.ofDigits_cons, List.foldl_cons, List.foldl_nil]
      exact Nat.add_comm _ _

variable {line suffix : List Char} {form : Form}

/-! ## White space around a version -/

theorem strip_of_isLineOf {text : List Char} (isLine : IsLineOf line text) :
    strip text = strip line := by
  rcases isLine with ⟨_, rfl | rfl⟩
  · rfl
  · exact strip_append_blank (by decide) line

/-- Nothing can be stripped from wildcards and ranges. -/
theorem Fits.strip_eq (fits : Fits form line) (bare : form ≠ .semantic) : strip line = line := by
  have visible : marks.all (!isBlank ·) = true := by decide
  refine strip_of_unblank fun char member => ?_
  rcases fits.mem_cases bare member with digit | mark
  · exact isBlank_of_isDigit digit
  · simpa using List.all_eq_true.1 visible char mark

theorem isBlank_of_mem_intercalate {numbers : List (List Char)}
    (written : ∀ number ∈ numbers, IsNumber number) :
    ∀ char ∈ ['.'].intercalate numbers, isBlank char = false := by
  intro char member
  rcases mem_intercalate member with rfl | ⟨number, within, inside⟩
  · decide
  · exact isBlank_of_isDigit ((written number within).digits char inside)

/-- Stripping shortens the suffix of a version at most to its sign. -/
theorem exists_strip_eq {numbers : List (List Char)}
    (written : ∀ number ∈ numbers, IsNumber number) (ends : IsSemanticSuffix suffix)
    (oneLine : '\n' ∉ suffix) :
    ∃ kept, strip (['.'].intercalate numbers ++ suffix) = ['.'].intercalate numbers ++ kept ∧
      IsReleaseSuffix kept := by
  have unblank := isBlank_of_mem_intercalate written
  cases ends with
  | absent =>
      rw [List.append_nil]
      exact ⟨[], by rw [strip_of_unblank unblank, List.append_nil], .absent⟩
  | @signed sign first others opens =>
      have visible : isBlank sign = false := by rcases opens with rfl | rfl <;> decide
      refine ⟨_, strip_append_cons unblank visible _, .signed opens ?_⟩
      exact fun member => List.not_mem_of_not_mem_cons oneLine
        ((stripEnd_sublist _).subset member)

/-! ## Releases -/

/-- A semantic version has a release of at most three numbers. -/
theorem Fits.exists_isRelease (fits : Fits .semantic line) (oneLine : '\n' ∉ line) :
    ∃ numbers, IsRelease (strip line) numbers ∧ numbers.length ≤ 3 := by
  cases fits with
  | @semantic numbers suffix least most written ends =>
      rw [List.mem_append, not_or] at oneLine
      obtain ⟨filled, digits⟩ := forall_isNumber_iff.1 written
      obtain ⟨kept, stripped, suffixed⟩ := exists_strip_eq written ends oneLine.2
      exact ⟨numbers, ⟨least, filled, digits, kept, stripped, suffixed⟩, most⟩

/-- Wildcards and ranges have no release: before their suffix a number is missing. -/
theorem Fits.not_isRelease (fits : Fits form line) (bare : form ≠ .semantic)
    (numbers : List (List Char)) : ¬IsRelease (strip line) numbers := by
  intro release
  rw [fits.strip_eq bare] at release
  obtain ⟨rfl, filled⟩ := numbers?_eq_some_iff_fields.1 (numbers?_eq_some_iff.2 release).2
  exact bare (fits.eq_formOf.trans (if_pos filled))

theorem release?_eq_none_iff {version : String} :
    release? version = .ok none ↔ ∀ numbers, ¬IsRelease (strip version.toList) numbers := by
  constructor
  · intro found numbers release
    rw [release?_of_isRelease release] at found
    cases read : readNumbers numbers with
    | error refused => simp [read, Except.map] at found
    | ok values => simp [read, Except.map] at found
  · exact release?_of_not_isRelease

/-- A text with the form of a version has a release of at most three numbers, unless it is a
wildcard or a range. -/
theorem exists_isRelease_of_isVersion {version : String} (accepted : isVersion version = true) :
    (∃ numbers, IsRelease (strip version.toList) numbers ∧ numbers.length ≤ 3) ∨
      ∃ line, IsLineOf line version.toList ∧ (Fits .wildcard line ∨ Fits .range line) := by
  obtain ⟨line, isLine, semantic | bare⟩ := isVersion_iff_exists_line.1 accepted
  · rw [strip_of_isLineOf isLine]
    exact .inl (semantic.exists_isRelease isLine.1)
  · exact .inr ⟨line, isLine, bare⟩

theorem not_isRelease_of_isLineOf {version : List Char} (isLine : IsLineOf line version)
    (bare : Fits .wildcard line ∨ Fits .range line) (numbers : List (List Char)) :
    ¬IsRelease (strip version) numbers := by
  rw [strip_of_isLineOf isLine]
  rcases bare with wildcard | range
  · exact wildcard.not_isRelease nofun numbers
  · exact range.not_isRelease nofun numbers

/-- Reading the release of a text gives its numbers, or is refused for one that is too long, or
finds that there is none. Among the texts with the form of a version, exactly the wildcards and the
ranges have none, and the release of any other has at most three numbers. -/
theorem release?_outcome (text : String) :
    (∀ values, release? text = .ok (some values) ↔
      ∃ numbers, IsRelease (strip text.toList) numbers ∧
        (∀ number ∈ numbers, number.length ≤ 4300) ∧ numbers.map decimalValue = values) ∧
    ((∃ refused, release? text = .error refused) ↔
      ∃ numbers, IsRelease (strip text.toList) numbers ∧
        ∃ number ∈ numbers, 4300 < number.length) ∧
    (release? text = .ok none ↔ ∀ numbers, ¬IsRelease (strip text.toList) numbers) ∧
    (isVersion text = true →
      (release? text = .ok none ↔
        ∃ line, IsLineOf line text.toList ∧ (Fits .wildcard line ∨ Fits .range line)) ∧
      ∀ values, release? text = .ok (some values) → values.length ≤ 3) := by
  refine ⟨fun values => ?_, release?_eq_error_iff, release?_eq_none_iff, fun accepted => ⟨?_, ?_⟩⟩
  · rw [← funext numeral_eq_decimalValue]
    exact release?_eq_some_iff
  · rw [release?_eq_none_iff]
    constructor
    · intro unfit
      rcases exists_isRelease_of_isVersion accepted with ⟨numbers, release, _⟩ | bare
      · exact (unfit numbers release).elim
      · exact bare
    · rintro ⟨line, isLine, bare⟩
      exact not_isRelease_of_isLineOf isLine bare
  · intro values found
    obtain ⟨numbers, release, _, rfl⟩ := release?_eq_some_iff.1 found
    rw [List.length_map]
    rcases exists_isRelease_of_isVersion accepted with ⟨others, other, most⟩ | ⟨line, isLine, bare⟩
    · exact release.unique other ▸ most
    · exact (not_isRelease_of_isLineOf isLine bare numbers release).elim

/-- A wildcard has no release, and a semantic version has one though its suffix ends in white
space. -/
theorem release?_outcome_wildcard_semantic :
    isVersion "1.2.+\n" = true ∧ release? "1.2.+\n" = .ok none ∧
      isVersion "2.2.0-rc \n" = true ∧ release? "2.2.0-rc \n" = .ok (some [2, 2, 0]) ∧
      [2, 2, 0].length ≤ 3 := by
  have wildcard := (release?_outcome "1.2.+\n").2.2.2 (by decide)
  have semantic := (release?_outcome "2.2.0-rc \n").2.2.2 (by decide)
  have isLine : IsLineOf "1.2.+".toList "1.2.+\n".toList := ⟨by decide, .inr rfl⟩
  have one : IsNumber ['1'] := ⟨by decide, List.forall_mem_singleton.2 (by decide)⟩
  have two : IsNumber ['2'] := ⟨by decide, List.forall_mem_singleton.2 (by decide)⟩
  exact ⟨by decide, wildcard.1.2 ⟨_, isLine, .inl (.wildcard one two)⟩, by decide, rfl,
    semantic.2 _ rfl⟩

end VersionCatalog.Version
