import VersionCatalog.Text.LooseHexadecimal
import VersionCatalog.Proofs.Text.Blank

/-!
# How hexadecimal numbers may be written

A loosely written number is told apart from other texts by its parts: white space, a sign, a mark of
the base, and digits with low lines between them. `readLooseHex_eq_some_iff` says that the reader
accepts the texts with these parts and no others, and that it reads the number that the digits
write.
-/

namespace VersionCatalog.Text

/-- A hexadecimal digit, a decimal digit being of any script. -/
def isLooseHexDigit (char : Char) : Bool :=
  (looseHexValue? char).isSome

/-- The number that hexadecimal digits write when they follow those of a number. -/
def hexNumeralFrom (number : Nat) (digits : List Char) : Nat :=
  digits.foldl (fun number digit => 16 * number + (looseHexValue? digit).getD 0) number

/-- Digits, each of them with or without a low line before it. -/
def spacedDigits : List (Bool × Char) → List Char
  | [] => []
  | (spaced, digit) :: digits => (if spaced then ['_', digit] else [digit]) ++ spacedDigits digits

/-- What may stand before the digits to mark their base: nothing, or a zero and an `x`, which a low
line may follow. -/
def IsBaseMark (mark : List Char) : Prop :=
  mark = [] ∨ ∃ zero cross, looseHexValue? zero = some 0 ∧ (cross = 'x' ∨ cross = 'X') ∧
    (mark = [zero, cross] ∨ mark = [zero, cross, '_'])

/-- The sign of a number. -/
inductive Sign where
  /-- No sign is written. -/
  | unsigned
  | plus
  | minus

def Sign.text : Sign → List Char
  | unsigned => []
  | plus => ['+']
  | minus => ['-']

/-- The number of that sign and magnitude. -/
def Sign.apply : Sign → Nat → Int
  | minus, magnitude => -magnitude
  | _, magnitude => magnitude

/-- The parts of a loosely written hexadecimal number. -/
structure LooseHex where
  /-- The white space before it. -/
  before : List Char
  sign : Sign
  /-- What marks the base. -/
  mark : List Char
  first : Char
  /-- The digits after the first, with the low lines between them. -/
  others : List (Bool × Char)
  /-- The white space after it. -/
  after : List Char
  blankBefore : ∀ char ∈ before, isNumeralBlank char = true
  blankAfter : ∀ char ∈ after, isNumeralBlank char = true
  marked : IsBaseMark mark
  digits : ∀ digit ∈ first :: others.map Prod.snd, isLooseHexDigit digit = true

namespace LooseHex

/-- The number without its sign and the white space around it. -/
def unsignedText (numeral : LooseHex) : List Char :=
  numeral.mark ++ numeral.first :: spacedDigits numeral.others

def text (numeral : LooseHex) : List Char :=
  numeral.before ++ numeral.sign.text ++ numeral.unsignedText ++ numeral.after

def value (numeral : LooseHex) : Int :=
  numeral.sign.apply (hexNumeralFrom 0 (numeral.first :: numeral.others.map Prod.snd))

end LooseHex

theorem isBaseMark_nil : IsBaseMark [] :=
  .inl rfl

theorem spacedDigits_map_false (digits : List Char) :
    spacedDigits (digits.map fun digit => (false, digit)) = digits := by
  induction digits with
  | nil => rfl
  | cons digit digits induction => simp [spacedDigits, induction]

namespace LooseHex

variable {first : Char} {others : List Char}

/-- A number that is written without anything but digits. -/
def ofDigits (first : Char) (others : List Char)
    (digits : ∀ digit ∈ first :: others, isLooseHexDigit digit = true) : LooseHex where
  before := []
  sign := .unsigned
  mark := []
  first := first
  others := others.map fun digit => (false, digit)
  after := []
  blankBefore := nofun
  blankAfter := nofun
  marked := isBaseMark_nil
  digits := by simpa using digits

theorem text_ofDigits (digits : ∀ digit ∈ first :: others, isLooseHexDigit digit = true) :
    (ofDigits first others digits).text = first :: others := by
  simp [ofDigits, text, unsignedText, Sign.text, spacedDigits_map_false]

theorem value_ofDigits (digits : ∀ digit ∈ first :: others, isLooseHexDigit digit = true) :
    (ofDigits first others digits).value = hexNumeralFrom 0 (first :: others) := by
  simp [ofDigits, value, Sign.apply, Function.comp_def]

end LooseHex

/-! ## Digits -/

theorem isLooseHexDigit_lowLine : isLooseHexDigit '_' = false := by
  decide +kernel

theorem isLooseHexDigit_cross {char : Char} (cross : char = 'x' ∨ char = 'X') :
    isLooseHexDigit char = false := by
  rcases cross with rfl | rfl <;> decide +kernel

theorem ne_lowLine_of_isLooseHexDigit {char : Char} (digit : isLooseHexDigit char = true) :
    char ≠ '_' := by
  rintro rfl
  rw [isLooseHexDigit_lowLine] at digit
  cases digit

/-- No digit is white space. -/
theorem isNumeralBlank_of_isLooseHexDigit {char : Char} (digit : isLooseHexDigit char = true) :
    isNumeralBlank char = false := by
  have ascii : ∀ code ∈ List.range 0x7f, isLooseHexDigit (Char.ofNat code) = true →
      isNumeralBlank (Char.ofNat code) = false := by
    decide +kernel
  by_cases low : char.toNat < 0x7f
  · have found := ascii char.toNat (List.mem_range.2 low)
    rw [Char.ofNat_toNat] at found
    exact found digit
  · rw [isNumeralBlank, if_neg low]
    rw [isLooseHexDigit, looseHexValue?, if_neg low] at digit
    exact isBlank_of_isDigit digit

theorem readHexDigits_cons {afterDigit : Bool} {number : Nat} {digit : Char} {rest : List Char}
    (hex : isLooseHexDigit digit = true) :
    readHexDigits afterDigit number (digit :: rest) =
      readHexDigits true (hexNumeralFrom number [digit]) rest := by
  obtain ⟨value, known⟩ := Option.isSome_iff_exists.1 hex
  simp [readHexDigits, ne_lowLine_of_isLooseHexDigit hex, known, hexNumeralFrom]

theorem readHexDigits_spacedDigits {number : Nat} {others : List (Bool × Char)}
    (digits : ∀ digit ∈ others.map Prod.snd, isLooseHexDigit digit = true) :
    readHexDigits true number (spacedDigits others) =
      some (hexNumeralFrom number (others.map Prod.snd)) := by
  induction others generalizing number with
  | nil => rfl
  | cons first others induction =>
      obtain ⟨spaced, digit⟩ := first
      rw [List.map_cons, List.forall_mem_cons] at digits
      cases spaced with
      | false =>
          rw [spacedDigits, if_neg Bool.false_ne_true, List.singleton_append,
            readHexDigits_cons digits.1]
          exact induction digits.2
      | true =>
          rw [spacedDigits, if_pos rfl, List.cons_append, readHexDigits, if_pos rfl, if_pos rfl,
            List.singleton_append, readHexDigits_cons digits.1]
          exact induction digits.2

/-- Digits are read only where they stand with single low lines between them. Before the first digit
the reader is where it would be behind a low line. -/
theorem exists_spacedDigits_of_readHexDigits {afterDigit : Bool} {number result : Nat}
    {text : List Char} (read : readHexDigits afterDigit number text = some result) :
    ∃ others, spacedDigits others = (if afterDigit then text else '_' :: text) ∧
      (∀ digit ∈ others.map Prod.snd, isLooseHexDigit digit = true) ∧
      hexNumeralFrom number (others.map Prod.snd) = result := by
  induction text generalizing afterDigit number with
  | nil =>
      cases afterDigit with
      | false => simp [readHexDigits] at read
      | true =>
          simp only [readHexDigits, if_true, Option.some.injEq] at read
          exact ⟨[], rfl, by simp, read⟩
  | cons char rest induction =>
      rw [readHexDigits] at read
      split at read
      · next low =>
          cases afterDigit with
          | false => simp at read
          | true =>
              obtain ⟨others, written, digits, value⟩ := induction read
              exact ⟨others, by simpa [low] using written, digits, value⟩
      · split at read
        · next value known =>
            obtain ⟨others, written, digits, result⟩ := induction read
            refine ⟨(!afterDigit, char) :: others, ?_, ?_, ?_⟩
            · rw [if_pos rfl] at written
              cases afterDigit <;> simp [spacedDigits, written]
            · rw [List.map_cons, List.forall_mem_cons]
              exact ⟨by simp [isLooseHexDigit, known], digits⟩
            · simpa [hexNumeralFrom, known] using result
        · cases read

/-- The digits of a number are a first one and those after it. -/
theorem readHexDigits_eq_some_iff {text : List Char} {result : Nat} :
    readHexDigits false 0 text = some result ↔
      ∃ first others, first :: spacedDigits others = text ∧
        (∀ digit ∈ first :: others.map Prod.snd, isLooseHexDigit digit = true) ∧
        hexNumeralFrom 0 (first :: others.map Prod.snd) = result := by
  constructor
  · intro read
    obtain ⟨others, written, digits, value⟩ := exists_spacedDigits_of_readHexDigits read
    rw [if_neg Bool.false_ne_true] at written
    match others with
    | [] => cases written
    | (false, digit) :: others =>
        -- The low line before the first digit would be a digit.
        simp only [spacedDigits, Bool.false_eq_true, if_false, List.singleton_append,
          List.cons.injEq] at written
        exact (ne_lowLine_of_isLooseHexDigit (digits digit (by simp)) written.1).elim
    | (true, digit) :: others =>
        simp only [spacedDigits, if_true, List.cons_append, List.nil_append, List.cons.injEq,
          true_and] at written
        exact ⟨digit, others, written, digits, value⟩
  · rintro ⟨first, others, rfl, digits, rfl⟩
    rw [List.forall_mem_cons] at digits
    rw [readHexDigits_cons digits.1]
    exact readHexDigits_spacedDigits digits.2

/-- A text of digits does not begin with the letter of a base mark. -/
theorem head?_spacedDigits_ne {others : List (Bool × Char)} {cross : Char}
    (digits : ∀ digit ∈ others.map Prod.snd, isLooseHexDigit digit = true)
    (known : cross = 'x' ∨ cross = 'X') : (spacedDigits others).head? ≠ some cross := by
  match others with
  | [] => simp [spacedDigits]
  | (false, digit) :: others =>
      have hex : isLooseHexDigit digit = true := digits digit (by simp)
      intro first
      simp only [spacedDigits, Bool.false_eq_true, if_false, List.singleton_append,
        List.head?_cons, Option.some.injEq] at first
      rw [first, isLooseHexDigit_cross known] at hex
      cases hex
  | (true, digit) :: others =>
      rcases known with rfl | rfl <;> simp [spacedDigits]

/-- Digits end with a digit. -/
theorem stops_reverse_spacedDigits {first : Char} {others : List (Bool × Char)}
    (digits : ∀ digit ∈ first :: others.map Prod.snd, isLooseHexDigit digit = true)
    (before : List Char) :
    Stops isNumeralBlank ((first :: spacedDigits others).reverse ++ before) := by
  induction others generalizing first before with
  | nil =>
      exact stops_cons (isNumeralBlank_of_isLooseHexDigit (digits first List.mem_cons_self))
  | cons second others induction =>
      obtain ⟨spaced, digit⟩ := second
      rw [List.forall_mem_cons] at digits
      have later := @induction digit digits.2
      cases spaced with
      | false => simpa [spacedDigits] using later (first :: before)
      | true => simpa [spacedDigits] using later ('_' :: first :: before)

/-! ## Numbers -/

theorem readUnsignedHex_eq_some_iff {text : List Char} {result : Nat} :
    readUnsignedHex text = some result ↔
      ∃ mark first others, IsBaseMark mark ∧ mark ++ first :: spacedDigits others = text ∧
        (∀ digit ∈ first :: others.map Prod.snd, isLooseHexDigit digit = true) ∧
        hexNumeralFrom 0 (first :: others.map Prod.snd) = result := by
  constructor
  · intro read
    have bare : readHexDigits false 0 text = some result → ∃ mark first others,
        IsBaseMark mark ∧ mark ++ first :: spacedDigits others = text ∧
          (∀ digit ∈ first :: others.map Prod.snd, isLooseHexDigit digit = true) ∧
          hexNumeralFrom 0 (first :: others.map Prod.snd) = result := by
      intro read
      obtain ⟨first, others, written, parts⟩ := readHexDigits_eq_some_iff.1 read
      exact ⟨[], first, others, isBaseMark_nil, written, parts⟩
    unfold readUnsignedHex at read
    split at read
    · next zero cross rest =>
        split at read
        · next marked =>
            split at read
            · next digits =>
                obtain ⟨first, others, rfl, parts⟩ := readHexDigits_eq_some_iff.1 read
                exact ⟨[zero, cross, '_'], first, others,
                  .inr ⟨zero, cross, marked.1, marked.2, .inr rfl⟩, rfl, parts⟩
            · obtain ⟨first, others, rfl, parts⟩ := readHexDigits_eq_some_iff.1 read
              exact ⟨[zero, cross], first, others,
                .inr ⟨zero, cross, marked.1, marked.2, .inl rfl⟩, rfl, parts⟩
        · exact bare read
    · exact bare read
  · rintro ⟨mark, first, others, marked, rfl, digits, rfl⟩
    have read := readHexDigits_eq_some_iff.2 ⟨first, others, rfl, digits, rfl⟩
    rcases marked with rfl | ⟨zero, cross, nought, known, rfl | rfl⟩
    · rw [List.nil_append]
      unfold readUnsignedHex
      split
      · next zero cross rest written =>
          rw [if_neg]
          · exact read
          · rintro ⟨_, known⟩
            rw [List.cons.injEq] at written
            rw [List.forall_mem_cons] at digits
            exact head?_spacedDigits_ne digits.2 known (by rw [written.2, List.head?_cons])
      · exact read
    · have notLow : first ≠ '_' := ne_lowLine_of_isLooseHexDigit (digits first List.mem_cons_self)
      simp only [List.cons_append, List.nil_append, readUnsignedHex, nought, known, and_self,
        if_true]
      split
      · next others written =>
          rw [List.cons.injEq] at written
          exact (notLow written.1).elim
      · exact read
    · simp only [List.cons_append, List.nil_append, readUnsignedHex, nought, known, and_self,
        if_true]
      exact read

/-- The text without the white space that may stand around a number. -/
def bareNumber (text : List Char) : List Char :=
  ((text.dropWhile isNumeralBlank).reverse.dropWhile isNumeralBlank).reverse

theorem bareNumber_append {before core after : List Char}
    (blankBefore : ∀ char ∈ before, isNumeralBlank char = true)
    (blankAfter : ∀ char ∈ after, isNumeralBlank char = true)
    (begins : Stops isNumeralBlank (core ++ after)) (ends : Stops isNumeralBlank core.reverse) :
    bareNumber (before ++ core ++ after) = core := by
  have reversed : ∀ char ∈ after.reverse, isNumeralBlank char = true := by
    simpa using blankAfter
  rw [bareNumber, List.append_assoc, dropWhile_of_stops blankBefore begins, List.reverse_append,
    dropWhile_of_stops reversed ends, List.reverse_reverse]

theorem exists_append_bareNumber (text : List Char) :
    ∃ before after, (∀ char ∈ before, isNumeralBlank char = true) ∧
      (∀ char ∈ after, isNumeralBlank char = true) ∧
      text = before ++ bareNumber text ++ after := by
  refine ⟨text.takeWhile isNumeralBlank,
    ((text.dropWhile isNumeralBlank).reverse.takeWhile isNumeralBlank).reverse,
    fun _ => forall_mem_takeWhile, ?_, ?_⟩
  · intro char member
    exact forall_mem_takeWhile (List.mem_reverse.1 member)
  · rw [bareNumber, List.append_assoc, ← List.reverse_append, List.takeWhile_append_dropWhile,
      List.reverse_reverse, List.takeWhile_append_dropWhile]

/-- The sign that a text begins with, and the text after it. -/
def splitSign : List Char → Sign × List Char
  | '-' :: rest => (.minus, rest)
  | '+' :: rest => (.plus, rest)
  | rest => (.unsigned, rest)

theorem splitSign_of_ne {char : Char} (notMinus : char ≠ '-') (notPlus : char ≠ '+')
    (rest : List Char) : splitSign (char :: rest) = (.unsigned, char :: rest) := by
  simp [splitSign, notMinus, notPlus]

theorem text_append_splitSign (text : List Char) :
    (splitSign text).1.text ++ (splitSign text).2 = text := by
  unfold splitSign
  split <;> rfl

namespace LooseHex

variable (numeral : LooseHex)

/-- An unsigned number begins with a digit: the zero of its base mark, or its own first. -/
theorem exists_head_unsignedText :
    ∃ digit rest, isLooseHexDigit digit = true ∧ numeral.unsignedText = digit :: rest := by
  rcases numeral.marked with none | ⟨zero, cross, nought, _, short | long⟩
  · exact ⟨numeral.first, spacedDigits numeral.others, numeral.digits _ List.mem_cons_self,
      by rw [unsignedText, none, List.nil_append]⟩
  · exact ⟨zero, _, by simp [isLooseHexDigit, nought],
      by rw [unsignedText, short, List.cons_append]⟩
  · exact ⟨zero, _, by simp [isLooseHexDigit, nought],
      by rw [unsignedText, long, List.cons_append]⟩

theorem begins : Stops isNumeralBlank (numeral.sign.text ++ numeral.unsignedText ++
    numeral.after) := by
  obtain ⟨digit, rest, hex, opened⟩ := numeral.exists_head_unsignedText
  cases numeral.sign with
  | unsigned =>
      rw [Sign.text, List.nil_append, opened]
      exact stops_cons (isNumeralBlank_of_isLooseHexDigit hex)
  | plus => exact stops_cons (by decide)
  | minus => exact stops_cons (by decide)

theorem ends : Stops isNumeralBlank (numeral.sign.text ++ numeral.unsignedText).reverse := by
  rw [unsignedText, ← List.append_assoc, List.reverse_append]
  exact stops_reverse_spacedDigits numeral.digits _

theorem read_unsignedText :
    readUnsignedHex numeral.unsignedText =
      some (hexNumeralFrom 0 (numeral.first :: numeral.others.map Prod.snd)) :=
  readUnsignedHex_eq_some_iff.2
    ⟨numeral.mark, numeral.first, numeral.others, numeral.marked, rfl, numeral.digits, rfl⟩

end LooseHex

/-- The sign is read first. -/
theorem readLooseHex_eq (text : List Char) :
    readLooseHex text =
      (readUnsignedHex (splitSign (bareNumber text)).2).map
        (splitSign (bareNumber text)).1.apply := by
  have unsigned : ∀ digits, (readUnsignedHex digits).map Int.ofNat =
      (readUnsignedHex digits).map Sign.unsigned.apply := fun _ => rfl
  rw [readLooseHex, ← bareNumber]
  cases bareNumber text with
  | nil => rfl
  | cons char digits =>
      by_cases minus : char = '-'
      · subst minus
        simp only [splitSign]
        cases readUnsignedHex digits <;> rfl
      · by_cases plus : char = '+'
        · subst plus
          rfl
        · simp [splitSign_of_ne minus plus, minus, plus, unsigned]

theorem LooseHex.splitSign_append (numeral : LooseHex) :
    splitSign (numeral.sign.text ++ numeral.unsignedText) =
      (numeral.sign, numeral.unsignedText) := by
  obtain ⟨digit, rest, hex, opened⟩ := numeral.exists_head_unsignedText
  cases numeral.sign with
  | minus => rfl
  | plus => rfl
  | unsigned =>
      have notMinus : digit ≠ '-' := by
        rintro rfl
        exact absurd hex (by decide +kernel)
      have notPlus : digit ≠ '+' := by
        rintro rfl
        exact absurd hex (by decide +kernel)
      rw [Sign.text, List.nil_append, opened, splitSign_of_ne notMinus notPlus]

/-- A text is read as a number exactly when it is a loosely written one, of that value. -/
theorem readLooseHex_eq_some_iff {text : List Char} {number : Int} :
    readLooseHex text = some number ↔
      ∃ numeral : LooseHex, numeral.text = text ∧ numeral.value = number := by
  rw [readLooseHex_eq]
  constructor
  · intro read
    obtain ⟨before, after, blankBefore, blankAfter, whole⟩ := exists_append_bareNumber text
    obtain ⟨magnitude, known, rfl⟩ := Option.map_eq_some_iff.1 read
    obtain ⟨mark, first, others, marked, written, hex, rfl⟩ :=
      readUnsignedHex_eq_some_iff.1 known
    refine ⟨⟨before, (splitSign (bareNumber text)).1, mark, first, others, after, blankBefore,
      blankAfter, marked, hex⟩, ?_, rfl⟩
    rw [LooseHex.text, LooseHex.unsignedText, written, List.append_assoc before,
      text_append_splitSign, ← whole]
  · rintro ⟨numeral, rfl, rfl⟩
    have bare :=
      bareNumber_append numeral.blankBefore numeral.blankAfter numeral.begins numeral.ends
    rw [← List.append_assoc] at bare
    rw [LooseHex.text, bare, numeral.splitSign_append, numeral.read_unsignedText]
    rfl

end VersionCatalog.Text
