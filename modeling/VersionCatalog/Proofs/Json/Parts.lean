import Mathlib.Data.List.Basic
import Mathlib.Data.List.DropRight
import VersionCatalog.Json.Reader
import VersionCatalog.Json.Writer

/-!
# Reading numbers and texts as they are written

A number ends where something else than a digit, a point or a power of ten follows, and a text ends
at the first quote that is not escaped. In this way a reader finds the end of a written number or
text by itself, whatever stands after it.
-/

namespace VersionCatalog.Json

open Text

/-! ## White space -/

variable {gap input tail : List Char}

theorem skipGap_append (blank : ∀ char ∈ gap, isGap char = true) (input : List Char) :
    skipGap (gap ++ input) = skipGap input :=
  List.dropWhile_append_of_pos blank

theorem skipGap_cons {char : Char} (visible : isGap char = false) (input : List Char) :
    skipGap (char :: input) = char :: input :=
  List.dropWhile_cons_of_neg (by simp [visible])

theorem skipGap_idem (input : List Char) : skipGap (skipGap input) = skipGap input :=
  List.dropWhile_idempotent _ _

/-- What may stand right after a value: nothing, white space, or a mark that goes on or ends. -/
def Closes (tail : List Char) : Prop :=
  ∀ char ∈ tail.head?, isGap char = true ∨ char ∈ [',', ']', '\x7d']

theorem Closes.nil : Closes [] := nofun

theorem Closes.cons {char : Char} (closing : isGap char = true ∨ char ∈ [',', ']', '\x7d'])
    (tail : List Char) : Closes (char :: tail) := by
  rintro other ⟨⟩
  exact closing

theorem Closes.comma (tail : List Char) : Closes (',' :: tail) :=
  .cons (by decide) tail

theorem Closes.bracket (tail : List Char) : Closes (']' :: tail) :=
  .cons (by decide) tail

theorem Closes.brace (tail : List Char) : Closes ('\x7d' :: tail) :=
  .cons (by decide) tail

theorem Closes.gap_append (blank : ∀ char ∈ gap, isGap char = true) (closes : Closes tail) :
    Closes (gap ++ tail) := by
  cases gap with
  | nil => exact closes
  | cons char gap => exact .cons (.inl (blank char List.mem_cons_self)) _

/-- Nothing that a number could go on with stands after a value. -/
theorem Closes.head_ne (closes : Closes tail) :
    ∀ char ∈ tail.head?, char.isDigit = false ∧ char ≠ '.' ∧ char ≠ 'e' ∧ char ≠ 'E' := by
  intro char first
  rcases closes char first with blank | mark
  · simp only [isGap, Bool.or_eq_true, beq_iff_eq] at blank
    rcases blank with ((rfl | rfl) | rfl) | rfl <;> decide
  · simp only [List.mem_cons, List.not_mem_nil, or_false] at mark
    rcases mark with rfl | rfl | rfl <;> decide

/-! ## Numbers -/

theorem spanDigits_append {digits : List Char} (all : ∀ digit ∈ digits, digit.isDigit = true)
    (stops : ∀ char ∈ tail.head?, char.isDigit = false) :
    spanDigits (digits ++ tail) = (digits, tail) := by
  have rest : tail.takeWhile Char.isDigit = [] ∧ tail.dropWhile Char.isDigit = tail := by
    cases tail with
    | nil => exact ⟨rfl, rfl⟩
    | cons char tail => simp [stops char rfl]
  rw [spanDigits, List.takeWhile_append_of_pos all, List.dropWhile_append_of_pos all, rest.1,
    rest.2, List.append_nil]

theorem isDigit_toDigits (number : Nat) :
    ∀ digit ∈ Nat.toDigits 10 number, digit.isDigit = true :=
  fun _ member => Nat.isDigit_of_mem_toDigits (by decide) (by decide) member

theorem exists_toDigits_eq_cons (number : Nat) :
    ∃ digit digits, Nat.toDigits 10 number = digit :: digits ∧ digit.isDigit = true := by
  cases split : Nat.toDigits 10 number with
  | nil => exact absurd split Nat.toDigits_ne_nil
  | cons digit digits =>
      exact ⟨digit, digits, rfl, isDigit_toDigits number digit (split ▸ List.mem_cons_self)⟩

theorem ofDigits_toDigits (number : Nat) : ofDigits (Nat.toDigits 10 number) = number :=
  Nat.ofDigitChars_ten_toDigits

/-- A number is written without leading zeros. -/
theorem head?_toDigits (number : Nat) :
    (Nat.toDigits 10 number).head? = some '0' → number = 0 := by
  induction number using Nat.strongRecOn with
  | ind number induction =>
      by_cases small : number < 10
      · rw [Nat.toDigits_of_lt_base small]
        have digits : ∀ digit < 10, [digit.digitChar].head? = some '0' → digit = 0 := by decide
        exact digits number small
      · have large : 10 ≤ number := Nat.not_lt.1 small
        rw [Nat.toDigits_of_base_le (by decide) large, List.head?_append_of_ne_nil _
          Nat.toDigits_ne_nil]
        intro zero
        have quotient := induction (number / 10) (by omega) zero
        omega

theorem readFraction_of_closes (closes : Closes tail) : readFraction tail = some ([], tail) := by
  cases tail with
  | nil => rfl
  | cons char tail =>
      have point := (closes.head_ne char rfl).2.1
      unfold readFraction
      split
      · next same => exact absurd (List.cons.inj same).1 point
      · rfl

theorem readPower_of_closes (closes : Closes tail) : readPower tail = some (none, tail) := by
  cases tail with
  | nil => rfl
  | cons char tail =>
      obtain ⟨-, -, lower, upper⟩ := closes.head_ne char rfl
      unfold readPower
      exact if_neg (not_or.2 ⟨lower, upper⟩)

/-- The digits of a written number are all that is read of it. -/
theorem readNumber_digits (number : Nat) (closes : Closes tail) :
    readNumber (Nat.toDigits 10 number ++ tail) = some (integer number, tail) ∧
      readNumber ('-' :: (Nat.toDigits 10 number ++ tail)) = some (integer (-number), tail) := by
  have all := isDigit_toDigits number
  have spanned := spanDigits_append all fun char first => (closes.head_ne char first).1
  have whole : ((Nat.toDigits 10 number).isEmpty ||
      ((Nat.toDigits 10 number).head? == some '0' && (Nat.toDigits 10 number).length != 1)) =
        false := by
    rw [Bool.or_eq_false_iff, List.isEmpty_eq_false_iff, Bool.and_eq_false_imp]
    refine ⟨Nat.toDigits_ne_nil, fun zero => ?_⟩
    rw [head?_toDigits number (eq_of_beq zero)]
    rfl
  have unsigned : ∀ rest, Nat.toDigits 10 number ++ tail ≠ '-' :: rest := by
    intro rest signed
    obtain ⟨digit, digits, split, first⟩ := exists_toDigits_eq_cons number
    rw [split] at signed
    rw [(List.cons.inj signed).1] at first
    exact absurd first (by decide)
  constructor
  · unfold readNumber
    split
    next negative rest same =>
    split at same
    · next signed => exact absurd signed (unsigned _)
    · cases same
      simp only [spanned, whole, readFraction_of_closes closes, readPower_of_closes closes,
        ofDigits_toDigits, Bool.false_eq_true, if_false, Option.bind_eq_bind, Option.bind_some,
        List.isEmpty_nil, Option.isNone_none, Bool.and_self, if_true]
  · unfold readNumber
    simp only [spanned, whole, readFraction_of_closes closes, readPower_of_closes closes,
      ofDigits_toDigits, Bool.false_eq_true, if_false, Option.bind_eq_bind, Option.bind_some,
      List.isEmpty_nil, Option.isNone_none, Bool.and_self, if_true]

/-- A written number is read up to its last digit. -/
theorem readNumber_toString (value : Int) (closes : Closes tail) :
    readNumber ((toString value).toList ++ tail) = some (integer value, tail) := by
  rw [Int.toString_eq_repr]
  cases value with
  | ofNat number =>
      rw [Int.repr, Nat.toList_repr]
      exact (readNumber_digits number closes).1
  | negSucc number =>
      rw [Int.repr, String.toList_append, Nat.toList_repr]
      exact (readNumber_digits (number + 1) closes).2

/-! ## Texts -/

theorem codeUnit?_hexadecimal :
    ∀ number < 0x20, codeUnit? (hexadecimal 4 number) = some number := by
  decide

theorem readContent_escapedChar (char : Char) (input : List Char) :
    readContent none (escapedChar char ++ input) =
      (readContent none input).map fun (content, rest) => (char :: content, rest) := by
  have bound : ∀ read : Option (List Char × List Char),
      (read.bind fun (content, rest) => some (char :: content, rest)) =
        read.map fun (content, rest) => (char :: content, rest) := by
    rintro (_ | _) <;> rfl
  unfold escapedChar
  split
  iterate 7 · exact bound _
  split
  · next control =>
      have unit : takeUnit? none char.toNat = some ([char], none) := by
        rw [takeUnit?, if_neg (by omega), if_pos (show char.toNat.isValidChar from char.valid),
          Char.ofNat_toNat]
      have digits := codeUnit?_hexadecimal char.toNat control
      simp only [hexadecimal, List.nil_append, List.cons_append] at digits ⊢
      rw [readContent, digits]
      simp only [Option.bind_eq_bind, Option.bind_some, unit]
      exact bound _
  · next quote backslash _ _ _ _ _ visible =>
      rw [List.singleton_append, readContent]
      · rw [if_neg (by simpa [Nat.not_lt.1 visible] using backslash)]
        exact bound _
      · exact quote
      · exact fun _ _ _ _ _ same _ => backslash same
      · exact fun _ _ same _ => backslash same

/-- A written text is read up to its closing quote. -/
theorem readContent_escaped (content tail : List Char) :
    readContent none (content.flatMap escapedChar ++ '"' :: tail) = some (content, tail) := by
  induction content with
  | nil => rfl
  | cons char content induction =>
      rw [List.flatMap_cons, List.append_assoc, readContent_escapedChar, induction]
      rfl

end VersionCatalog.Json
