import Mathlib.Data.List.Basic
import VersionCatalog.Failure
import VersionCatalog.Proofs.Document.Readers
import VersionCatalog.Proofs.Text.LooseHexadecimal

/-!
# Escapes of characters by their codes

Between double quotes, and between three of them, `\u` and `\U` are followed by the code of a
character. A well-formed code has four or eight hexadecimal digits and is that of a Unicode scalar
value. Such codes are read as they should be. A code that is not well formed is a fault of the text,
unless it writes the number of a character loosely: `escape_iff` says which codes are read and what
is read for them.
-/

namespace VersionCatalog.Document

open Text

/-! ## Codes -/

/-- The number that hexadecimal digits of the basic Latin range write. -/
def hexNumeral (digits : List Char) : Nat :=
  digits.foldl (fun number digit => 16 * number + (hexValue? digit).getD 0) 0

/-- A code has as many hexadecimal digits as it should, all of the basic Latin range, and is that of
a character. -/
structure IsCode (width : Nat) (code : List Char) (char : Char) : Prop where
  length : code.length = width
  digits : ∀ digit ∈ code, (hexValue? digit).isSome = true
  number : hexNumeral code = char.toNat

/-- A code writes the number of a character loosely, and is not well formed. -/
structure IsLooseCode (width : Nat) (code : List Char) (char : Char) : Prop where
  written : ∃ numeral : LooseHex, numeral.text = code ∧ numeral.value = char.toNat
  malformed : ¬IsCode width code char

theorem codeWidth?_cases {marker : Char} {width : Nat} (coded : codeWidth? marker = some width) :
    (marker = 'u' ∧ width = 4) ∨ (marker = 'U' ∧ width = 8) := by
  unfold codeWidth? at coded
  split at coded
  · cases coded
    exact .inl ⟨rfl, rfl⟩
  · cases coded
    exact .inr ⟨rfl, rfl⟩
  · cases coded

theorem looseHexValue?_of_hexValue? {char : Char} (hex : (hexValue? char).isSome = true) :
    looseHexValue? char = hexValue? char := by
  have low : char.toNat < 0x7f := by
    by_contra high
    have beyond : ∀ last : Char, last.toNat < 0x7f → ¬char ≤ last := by
      intro last small below
      have codes : char.toNat ≤ last.toNat := below
      omega
    simp [hexValue?, beyond '9' (by decide), beyond 'f' (by decide), beyond 'F' (by decide)] at hex
  rw [looseHexValue?, if_pos low]

/-- A well-formed code is a loosely written number too, without anything but digits. -/
theorem IsCode.exists_looseHex {width : Nat} {code : List Char} {char : Char}
    (formed : IsCode width code char) (wide : 0 < width) :
    ∃ numeral : LooseHex, numeral.text = code ∧ numeral.value = char.toNat := by
  obtain ⟨first, others, rfl⟩ :=
    List.exists_cons_of_length_pos (Nat.lt_of_lt_of_eq wide formed.length.symm)
  have digits : ∀ digit ∈ first :: others, isLooseHexDigit digit = true := by
    intro digit member
    have hex := formed.digits digit member
    rwa [isLooseHexDigit, looseHexValue?_of_hexValue? hex]
  have value : hexNumeralFrom 0 (first :: others) = hexNumeral (first :: others) := by
    refine List.foldl_ext _ _ _ fun number digit member => ?_
    rw [looseHexValue?_of_hexValue? (formed.digits digit member)]
  refine ⟨.ofDigits first others digits, LooseHex.text_ofDigits digits, ?_⟩
  rw [LooseHex.value_ofDigits, value, formed.number]

theorem toNat_ofNat {code : Nat} (valid : code.isValidChar) : (Char.ofNat code).toNat = code := by
  rw [Char.ofNat, dif_pos valid]
  rfl

theorem charOfCode?_eq_some_iff {code : Int} {char : Char} :
    charOfCode? code = some char ↔ code = char.toNat := by
  rw [charOfCode?]
  constructor
  · intro found
    split at found
    · next bounds =>
        cases found
        rw [toNat_ofNat bounds.2, Int.toNat_of_nonneg bounds.1]
    · cases found
  · rintro rfl
    have valid : char.toNat.isValidChar := char.valid
    rw [if_pos ⟨Int.natCast_nonneg _, by simpa using valid⟩, Int.toNat_natCast, Char.ofNat_toNat]

/-- The code of an escape is that of a character when it is well formed or loosely written. -/
theorem charOfCode_iff {width : Nat} {code : List Char} {char : Char} (wide : 0 < width) :
    (readLooseHex code).bind charOfCode? = some char ↔
      IsCode width code char ∨ IsLooseCode width code char := by
  have loose : (readLooseHex code).bind charOfCode? = some char ↔
      ∃ numeral : LooseHex, numeral.text = code ∧ numeral.value = char.toNat := by
    rw [← readLooseHex_eq_some_iff, Option.bind_eq_some_iff]
    simp only [charOfCode?_eq_some_iff, exists_eq_right]
  rw [loose]
  constructor
  · intro written
    by_cases formed : IsCode width code char
    · exact .inl formed
    · exact .inr ⟨written, formed⟩
  · rintro (formed | written)
    · exact formed.exists_looseHex wide
    · exact written.written

/-! ## Reading an escape -/

/-- As many characters as the code should have are taken for it, whatever they are. -/
theorem readEscape_code {marker : Char} {width : Nat} (coded : codeWidth? marker = some width)
    (rest : List Char) (line : Nat) :
    readEscape ⟨marker :: rest, line⟩ =
      ((readLooseHex (rest.take width)).bind charOfCode?).elim
        (.error (((⟨rest, line⟩ : Cursor).advance width).fault
          (.invalidEscape marker (String.ofList (rest.take width)))))
        fun char => .ok ([char], (⟨rest, line⟩ : Cursor).advance width) := by
  have passed : (⟨marker :: rest, line⟩ : Cursor).advance 1 = ⟨rest, line⟩ := by
    rcases codeWidth?_cases coded with ⟨rfl, _⟩ | ⟨rfl, _⟩ <;> exact advance_one_cons rfl
  have notSimple : simpleEscape? marker = none := by
    rcases codeWidth?_cases coded with ⟨rfl, _⟩ | ⟨rfl, _⟩ <;> rfl
  simp only [readEscape, passed, notSimple, coded]
  cases (readLooseHex (rest.take width)).bind charOfCode? <;> rfl

/-- The double quotes around a text in which escapes are read. -/
inductive DoubleQuotes where
  /-- One before and one after a text of one line. -/
  | one
  /-- Three before and three after a text of several lines. -/
  | three

namespace DoubleQuotes

/-- Reads a text between such quotes, the cursor being before the first. -/
def read : DoubleQuotes → Reader (List Char)
  | one => readBasic
  | three => readLong '"'

/-- Reads the next characters between such quotes that were opened on the given line. -/
def readPart (opening : Nat) : DoubleQuotes → Reader (Next (List Char))
  | one => readBasicPart opening
  | three => readEscapedPart

/-- The positions that are met when a text between such quotes is read. What stands between three
quotes is cut out first. -/
inductive Meets (cursor : Cursor) : DoubleQuotes → Cursor → Prop where
  | one {position : Cursor}
      (reached : Reaches (readBasicPart cursor.line) (cursor.advance 1) position) :
      Meets cursor one position
  | three {content later : List Char} {position : Cursor}
      (found : splitAtThree? '"' (cursor.advance 3).rest = some (content, later))
      (reached : Reaches readEscapedPart (Cursor.start content) position) :
      Meets cursor three position

variable {quotes : DoubleQuotes} {cursor position : Cursor}

theorem readPart_escape (opening : Nat) (opened : position.rest.head? = some '\\') :
    quotes.readPart opening position =
      (readEscape (position.advance 1)).map fun (chars, after) => (.more chars, after) := by
  cases quotes with
  | one => exact readBasicPart_escape opened
  | three => exact readEscapedPart_escape opened

/-- A fault that is met is the fault of the whole text. -/
theorem Meets.read_eq_error {fault : Fault} (met : quotes.Meets cursor position)
    (failed : quotes.readPart cursor.line position = .error fault) :
    quotes.read cursor = .error fault := by
  cases met with
  | one reached =>
      rw [read, readBasic, reached.result_eq_error (progressive_readBasicPart _) failed]
      rfl
  | three found reached =>
      rw [read, readLong_double found, unescape,
        reached.result_eq_error progressive_readEscapedPart failed]
      rfl

/-- Wherever `\u` or `\U` is met between double quotes, the next four or eight characters are taken
for one character exactly when they are its well-formed or loosely written code. Otherwise the text
is malformed. -/
theorem escape_iff {marker : Char} {rest : List Char} {line width : Nat}
    (met : quotes.Meets cursor ⟨'\\' :: marker :: rest, line⟩)
    (coded : codeWidth? marker = some width) :
    (∀ char, quotes.readPart cursor.line ⟨'\\' :: marker :: rest, line⟩ =
        .ok (.more [char], (⟨rest, line⟩ : Cursor).advance width) ↔
      IsCode width (rest.take width) char ∨ IsLooseCode width (rest.take width) char) ∧
    ((∀ char, ¬(IsCode width (rest.take width) char ∨ IsLooseCode width (rest.take width) char)) →
      ∃ fault, quotes.read cursor = .error fault ∧
        fault.cause = .invalidEscape marker (String.ofList (rest.take width)) ∧
        (Failure.ofFault fault).kind = .malformed) := by
  have wide : 0 < width := by
    rcases codeWidth?_cases coded with ⟨_, rfl⟩ | ⟨_, rfl⟩ <;> decide
  have part : quotes.readPart cursor.line ⟨'\\' :: marker :: rest, line⟩ =
      (readEscape ⟨marker :: rest, line⟩).map fun (chars, after) => (.more chars, after) := by
    rw [readPart_escape _ rfl, advance_one_cons rfl]
  rw [readEscape_code coded] at part
  constructor
  · intro char
    rw [← charOfCode_iff wide, part]
    cases (readLooseHex (rest.take width)).bind charOfCode? with
    | none => simp [Except.map]
    | some found => simp [Except.map]
  · intro refused
    have unread : (readLooseHex (rest.take width)).bind charOfCode? = none := by
      rw [Option.eq_none_iff_forall_ne_some]
      intro char found
      exact refused char ((charOfCode_iff wide).1 found)
    rw [unread] at part
    exact ⟨_, met.read_eq_error part, rfl, rfl⟩

/-- A code of eight digits is met behind another letter, and a code of four digits is that of a
surrogate. -/
theorem escape_smile_surrogate :
    three.readPart 1 ⟨"\\U0001F600".toList, 1⟩ = .ok (.more ['😀'], ⟨[], 1⟩) ∧
      ∃ fault, one.read (.start "\"\\uD800\"".toList) = .error fault ∧
        fault.cause = .invalidEscape 'u' "D800" ∧ (Failure.ofFault fault).kind = .malformed := by
  have smile := @escape_iff three (.start "\"\"\"é\\U0001F600\"\"\"".toList) 'U'
    "0001F600".toList 1 8 (.three rfl (.more .start rfl)) rfl
  have surrogate := @escape_iff one (.start "\"\\uD800\"".toList) 'u' "D800\"".toList 1 4
    (.one .start) rfl
  constructor
  · exact (smile.1 '😀').2 (.inl ⟨rfl, List.all_eq_true.1 rfl, rfl⟩)
  · refine surrogate.2 fun char coded => ?_
    have found := (charOfCode_iff (by decide)).2 coded
    cases found

open scoped CallStack

/-- A mark of the base takes the place of two digits, and is not taken for a fault. -/
theorem escape_marked_base :
    ofText "k = \"\\u0x41\"" = .ok ⟨[], [⟨"", "k", .text "A", 1⟩]⟩ ∧
      ∀ char, ¬IsCode 4 "0x41".toList char := by
  refine ⟨rfl, fun char formed => ?_⟩
  have cross := formed.digits 'x' (by decide)
  cases cross

end DoubleQuotes

end VersionCatalog.Document
