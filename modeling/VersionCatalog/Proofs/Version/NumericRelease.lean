import Mathlib.Tactic.ByContra
import VersionCatalog.Proofs.Text.Span
import VersionCatalog.Version.Release

/-!
# The language of numeric releases

A version has a numeric release when it is a run of numbers between dots, followed by nothing or by
a sign and further text on the same line. Here that language is given without the reader, and the
reader is shown to accept exactly it: it fails on a number that is too long, and gives the values of
the numbers otherwise.
-/

namespace VersionCatalog.Version

open Text

/-- What may follow the numbers of a release. -/
inductive IsReleaseSuffix : List Char → Prop where
  /-- Nothing. -/
  | absent : IsReleaseSuffix []
  /-- A hyphen or a plus sign, and text on the same line. -/
  | signed {sign : Char} {text : List Char} (opens : sign = '-' ∨ sign = '+')
      (oneLine : '\n' ∉ text) : IsReleaseSuffix (sign :: text)

/-- A version that begins with these numbers, none of them empty, and goes on with a suffix. -/
structure IsRelease (version : List Char) (numbers : List (List Char)) : Prop where
  /-- There is a number. -/
  nonempty : numbers ≠ []
  /-- No number is empty. -/
  written : [] ∉ numbers
  /-- Numbers consist of digits. -/
  digits : ∀ number ∈ numbers, ∀ char ∈ number, isDigit char = true
  /-- Dots join the numbers, and a suffix follows. -/
  suffix : ∃ suffix, version = ['.'].intercalate numbers ++ suffix ∧ IsReleaseSuffix suffix

theorem isSuffix_cons_iff {least : Nat} {sign : Char} {text : List Char} :
    isSuffix least (sign :: text) = true ↔
      (sign = '-' ∨ sign = '+') ∧ least ≤ text.length ∧ '\n' ∉ text := by
  simp only [isSuffix, Bool.and_eq_true, Bool.or_eq_true, beq_iff_eq, decide_eq_true_eq,
    Bool.not_eq_true', List.contains_eq_mem, decide_eq_false_iff_not, and_assoc]

theorem isSuffix_zero_iff {suffix : List Char} :
    isSuffix 0 suffix = true ↔ IsReleaseSuffix suffix := by
  constructor
  · intro holds
    cases suffix with
    | nil => exact .absent
    | cons sign text =>
        obtain ⟨opens, _, oneLine⟩ := isSuffix_cons_iff.1 holds
        exact .signed opens oneLine
  · intro holds
    cases holds with
    | absent => rfl
    | signed opens oneLine => exact isSuffix_cons_iff.2 ⟨opens, Nat.zero_le _, oneLine⟩

/-- A suffix does not begin with a digit or a dot. -/
theorem IsReleaseSuffix.stops {suffix : List Char} (holds : IsReleaseSuffix suffix) :
    Stops (fun char => isDigit char || char == '.') suffix := by
  cases holds with
  | absent => exact stops_nil
  | signed opens _ =>
      rw [stops_cons_iff]
      rcases opens with rfl | rfl <;> decide

/-- Joined numbers consist of digits and dots. -/
theorem digit_or_dot_of_mem_intercalate {numbers : List (List Char)}
    (digits : ∀ number ∈ numbers, ∀ char ∈ number, isDigit char = true) :
    ∀ char ∈ ['.'].intercalate numbers, (isDigit char || char == '.') = true := by
  intro char member
  rcases mem_intercalate member with rfl | ⟨number, within, inside⟩
  · simp
  · simp [digits number within char inside]

/-- Between the dots before the suffix there are digits. -/
theorem digit_of_mem_fields {version field : List Char}
    (member : field ∈ fields '.' (numberedPart version)) : ∀ char ∈ field, isDigit char = true := by
  intro char inside
  have kept := forall_mem_takeWhile (mem_of_mem_fields member inside)
  have undotted : char ≠ '.' := by
    rintro rfl
    exact separator_notMem_of_mem_fields member inside
  simpa [undotted] using kept

theorem intercalate_fields_append_suffixPart (version : List Char) :
    ['.'].intercalate (fields '.' (numberedPart version)) ++ suffixPart version = version := by
  rw [intercalate_fields]
  exact List.takeWhile_append_dropWhile

/-- Numbers between dots, followed by anything but a digit or a dot, are found again. -/
theorem parts_of_intercalate_append {numbers : List (List Char)} {suffix : List Char}
    (nonempty : numbers ≠ []) (digits : ∀ number ∈ numbers, ∀ char ∈ number, isDigit char = true)
    (stops : Stops (fun char => isDigit char || char == '.') suffix) :
    fields '.' (numberedPart (['.'].intercalate numbers ++ suffix)) = numbers ∧
      suffixPart (['.'].intercalate numbers ++ suffix) = suffix := by
  have passed := digit_or_dot_of_mem_intercalate digits
  have undotted : ∀ number ∈ numbers, '.' ∉ number := by
    intro number member inside
    exact absurd (digits number member '.' inside) (by decide)
  constructor
  · rw [numberedPart, takeWhile_of_stops passed stops, fields_intercalate nonempty undotted]
  · rw [suffixPart, dropWhile_of_stops passed stops]

theorem numbers?_eq_some_iff_fields {part : List Char} {numbers : List (List Char)} :
    numbers? part = some numbers ↔ fields '.' part = numbers ∧ [] ∉ numbers := by
  rw [numbers?]
  split
  · next empty =>
      simp only [reduceCtorEq, false_iff, not_and]
      rintro rfl
      simpa using empty
  · next filled =>
      simp only [Option.some.injEq]
      refine ⟨?_, And.left⟩
      rintro rfl
      exact ⟨rfl, by simpa using filled⟩

/-- The reader finds numbers and a suffix exactly in the versions that have a release. -/
theorem numbers?_eq_some_iff {version : List Char} {numbers : List (List Char)} :
    isSuffix 0 (suffixPart version) = true ∧ numbers? (numberedPart version) = some numbers ↔
      IsRelease version numbers := by
  rw [numbers?_eq_some_iff_fields]
  constructor
  · rintro ⟨suffixed, rfl, written⟩
    exact ⟨fields_ne_nil _ _, written, fun number member => digit_of_mem_fields member,
      suffixPart version, (intercalate_fields_append_suffixPart version).symm,
      isSuffix_zero_iff.1 suffixed⟩
  · rintro ⟨nonempty, written, digits, suffix, rfl, suffixed⟩
    obtain ⟨found, rest⟩ := parts_of_intercalate_append nonempty digits suffixed.stops
    rw [rest]
    exact ⟨isSuffix_zero_iff.2 suffixed, found, written⟩

theorem readNumbers_eq_ok_iff {numbers : List (List Char)} {values : List Nat} :
    readNumbers numbers = .ok values ↔
      (∀ number ∈ numbers, number.length ≤ digitLimit) ∧ numbers.map numeral = values := by
  induction numbers generalizing values with
  | nil => simp [readNumbers]
  | cons number numbers induction =>
      simp only [readNumbers, readNumeral]
      split
      · next found =>
          split at found
          · next long => simp; omega
          · simp at found
      · next value found =>
          split at found
          · simp at found
          · next short =>
              simp only [Except.ok.injEq] at found
              subst found
              cases read : readNumbers numbers with
              | error refused =>
                  have never := @induction (numbers.map numeral)
                  simp only [read, reduceCtorEq, false_iff, and_true] at never
                  simp only [Except.map, reduceCtorEq, List.mem_cons, forall_eq_or_imp, false_iff]
                  exact fun all => never all.1.2
              | ok others =>
                  have known := (@induction others).1 read
                  simp only [Except.map, Except.ok.injEq, List.mem_cons, forall_eq_or_imp,
                    List.map_cons, known.2]
                  exact ⟨fun same => ⟨⟨by omega, known.1⟩, same⟩, fun all => all.2⟩

/-- Numbers are refused exactly when one of them is too long. -/
theorem readNumbers_eq_error_iff {numbers : List (List Char)} :
    (∃ refused, readNumbers numbers = .error refused) ↔
      ∃ number ∈ numbers, digitLimit < number.length := by
  constructor
  · rintro ⟨refused, read⟩
    by_contra none_long
    have short : ∀ number ∈ numbers, number.length ≤ digitLimit := by
      simpa using none_long
    rw [readNumbers_eq_ok_iff.2 ⟨short, rfl⟩] at read
    contradiction
  · rintro ⟨number, member, long⟩
    cases read : readNumbers numbers with
    | error refused => exact ⟨refused, rfl⟩
    | ok values =>
        have short := (readNumbers_eq_ok_iff.1 read).1 number member
        omega

/-- A version is a release in at most one way. -/
theorem IsRelease.unique {version : List Char} {left right : List (List Char)}
    (leftRelease : IsRelease version left) (rightRelease : IsRelease version right) :
    left = right := by
  have leftFound := (numbers?_eq_some_iff.2 leftRelease).2
  have rightFound := (numbers?_eq_some_iff.2 rightRelease).2
  exact Option.some.inj (leftFound.symm.trans rightFound)

/-- A release is read number by number. -/
theorem release?_of_isRelease {version : String} {numbers : List (List Char)}
    (release : IsRelease (strip version.toList) numbers) :
    release? version = (readNumbers numbers).map some := by
  obtain ⟨suffixed, found⟩ := numbers?_eq_some_iff.2 release
  simp [release?, suffixed, found]

/-- There is nothing to read in a version that has no release. -/
theorem release?_of_not_isRelease {version : String}
    (none_fits : ∀ numbers, ¬IsRelease (strip version.toList) numbers) :
    release? version = .ok none := by
  rw [release?]
  split
  · next suffixed =>
      split
      · next numbers found =>
          exact (none_fits numbers (numbers?_eq_some_iff.1 ⟨suffixed, found⟩)).elim
      · rfl
  · rfl

theorem release?_eq_some_iff {version : String} {values : List Nat} :
    release? version = .ok (some values) ↔
      ∃ numbers, IsRelease (strip version.toList) numbers ∧
        (∀ number ∈ numbers, number.length ≤ digitLimit) ∧ numbers.map numeral = values := by
  constructor
  · intro found
    by_cases fits : ∃ numbers, IsRelease (strip version.toList) numbers
    · obtain ⟨numbers, release⟩ := fits
      rw [release?_of_isRelease release] at found
      cases read : readNumbers numbers with
      | error refused => simp [read, Except.map] at found
      | ok values =>
          simp only [read, Except.map, Except.ok.injEq, Option.some.injEq] at found
          subst found
          exact ⟨numbers, release, readNumbers_eq_ok_iff.1 read⟩
    · rw [release?_of_not_isRelease (not_exists.1 fits)] at found
      simp at found
  · rintro ⟨numbers, release, short, rfl⟩
    rw [release?_of_isRelease release, readNumbers_eq_ok_iff.2 ⟨short, rfl⟩]
    rfl

/-- A version is refused exactly when its release has a number that is too long. -/
theorem release?_eq_error_iff {version : String} :
    (∃ refused, release? version = .error refused) ↔
      ∃ numbers, IsRelease (strip version.toList) numbers ∧
        ∃ number ∈ numbers, digitLimit < number.length := by
  constructor
  · rintro ⟨refused, found⟩
    by_cases fits : ∃ numbers, IsRelease (strip version.toList) numbers
    · obtain ⟨numbers, release⟩ := fits
      rw [release?_of_isRelease release] at found
      cases read : readNumbers numbers with
      | error refused => exact ⟨numbers, release, readNumbers_eq_error_iff.1 ⟨refused, read⟩⟩
      | ok values => simp [read, Except.map] at found
    · rw [release?_of_not_isRelease (not_exists.1 fits)] at found
      simp at found
  · rintro ⟨numbers, release, long⟩
    obtain ⟨refused, read⟩ := readNumbers_eq_error_iff.2 long
    exact ⟨refused, by rw [release?_of_isRelease release, read]; rfl⟩

end VersionCatalog.Version
