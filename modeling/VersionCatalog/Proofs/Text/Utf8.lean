import Mathlib.Data.List.Basic
import VersionCatalog.Text.Utf8

/-!
# Well-formed UTF-8

Bytes are decoded exactly when they are those of a text, and what is decoded is that text. Of other
bytes, the place that is given is the end of the longest front that is well formed, so that the
first ill-formed sequence begins there.
-/

namespace VersionCatalog.Text.Utf8

/-- The bytes of a text. -/
def encode (text : List Char) : List UInt8 :=
  text.flatMap String.utf8EncodeChar

/-- The bytes are those of a text. -/
def IsWellFormed (bytes : List UInt8) : Prop :=
  ∃ text, encode text = bytes

/-- The first ill-formed sequence begins at a place: the bytes before it are well formed, and no
more of them are. -/
structure IsFirstIllFormed (bytes : List UInt8) (place : Nat) : Prop where
  inside : place < bytes.length
  before : IsWellFormed (bytes.take place)
  longest : ∀ longer, place < longer → longer ≤ bytes.length → ¬IsWellFormed (bytes.take longer)

@[simp] theorem encode_nil : encode [] = [] := rfl

@[simp] theorem encode_cons (char : Char) (text : List Char) :
    encode (char :: text) = String.utf8EncodeChar char ++ encode text := rfl

theorem IsFirstIllFormed.not_isWellFormed {bytes : List UInt8} {place : Nat}
    (first : IsFirstIllFormed bytes place) : ¬IsWellFormed bytes := by
  simpa using first.longest bytes.length first.inside (Nat.le_refl _)

theorem IsFirstIllFormed.unique {bytes : List UInt8} {place other : Nat}
    (first : IsFirstIllFormed bytes place) (second : IsFirstIllFormed bytes other) :
    place = other := by
  rcases Nat.lt_trichotomy place other with less | same | more
  · exact (first.longest other less (Nat.le_of_lt second.inside) second.before).elim
  · exact same
  · exact (second.longest place more (Nat.le_of_lt first.inside) first.before).elim

/-! ## The bytes of a character

The library has these by shifts and masks. The decoder reads quotients and remainders, and so they
are stated that way here.
-/

variable {char : Char} {lead next third fourth : UInt8}

theorem toNat_lt (char : Char) : char.toNat < 0x110000 := by
  have valid : char.toNat.isValidChar := char.valid
  rcases valid with low | ⟨_, high⟩
  · exact Nat.lt_trans low (by decide)
  · exact high

theorem encodeChar_one (high : char.toNat < 0x80) :
    String.utf8EncodeChar char = [UInt8.ofNat char.toNat] := by
  have below : char.toNat ≤ 127 := by omega
  simp only [String.utf8EncodeChar, Char.toNat_val, if_pos below]

theorem encodeChar_two (low : 0x80 ≤ char.toNat) (high : char.toNat < 0x800) :
    String.utf8EncodeChar char =
      [UInt8.ofNat (0xc0 + char.toNat / 0x40), UInt8.ofNat (0x80 + char.toNat % 0x40)] := by
  have above : ¬char.toNat ≤ 127 := by omega
  have below : char.toNat ≤ 2047 := by omega
  have lead : char.toNat / 64 % 32 + 192 = 0xc0 + char.toNat / 0x40 := by omega
  simp only [String.utf8EncodeChar, Char.toNat_val, if_neg above, if_pos below, lead,
    Nat.add_comm _ 128]

theorem encodeChar_three (low : 0x800 ≤ char.toNat) (high : char.toNat < 0x10000) :
    String.utf8EncodeChar char =
      [UInt8.ofNat (0xe0 + char.toNat / 0x1000), UInt8.ofNat (0x80 + char.toNat / 0x40 % 0x40),
        UInt8.ofNat (0x80 + char.toNat % 0x40)] := by
  have aboveOne : ¬char.toNat ≤ 127 := by omega
  have aboveTwo : ¬char.toNat ≤ 2047 := by omega
  have below : char.toNat ≤ 65535 := by omega
  have lead : char.toNat / 4096 % 16 + 224 = 0xe0 + char.toNat / 0x1000 := by omega
  simp only [String.utf8EncodeChar, Char.toNat_val, if_neg aboveOne, if_neg aboveTwo,
    if_pos below, lead, Nat.add_comm _ 128]

theorem encodeChar_four (low : 0x10000 ≤ char.toNat) :
    String.utf8EncodeChar char =
      [UInt8.ofNat (0xf0 + char.toNat / 0x40000), UInt8.ofNat (0x80 + char.toNat / 0x1000 % 0x40),
        UInt8.ofNat (0x80 + char.toNat / 0x40 % 0x40), UInt8.ofNat (0x80 + char.toNat % 0x40)] := by
  have bound := toNat_lt char
  have aboveOne : ¬char.toNat ≤ 127 := by omega
  have aboveTwo : ¬char.toNat ≤ 2047 := by omega
  have aboveThree : ¬char.toNat ≤ 65535 := by omega
  have lead : char.toNat / 262144 % 8 + 240 = 0xf0 + char.toNat / 0x40000 := by omega
  simp only [String.utf8EncodeChar, Char.toNat_val, if_neg aboveOne, if_neg aboveTwo,
    if_neg aboveThree, lead, Nat.add_comm _ 128]

/-! ## Sequences of bytes -/

theorem toNat_byte {number : Nat} (small : number < 0x100) :
    (UInt8.ofNat number).toNat = number := by
  rw [UInt8.toNat_ofNat', Nat.mod_eq_of_lt small]

theorem eq_ofNat {byte : UInt8} {number : Nat} (same : byte.toNat = number) :
    UInt8.ofNat number = byte := by
  rw [← same, UInt8.ofNat_toNat]

theorem ofNat_eq_iff {code : Nat} (valid : code.isValidChar) :
    Char.ofNat code = char ↔ char.toNat = code := by
  rw [← Char.toNat_inj, Char.ofNat, dif_pos valid]
  exact eq_comm

theorem continuation?_eq_some_iff {byte : UInt8} {bits : Nat} :
    continuation? byte = some bits ↔ bits < 0x40 ∧ byte.toNat = 0x80 + bits := by
  rw [continuation?, Option.ite_none_right_eq_some, Option.some_inj]
  omega

/-- Two bytes are decoded exactly as the character that has them. -/
theorem twoBytes?_eq_some_iff :
    twoBytes? lead next = some char ↔ 0x80 ≤ char.toNat ∧ char.toNat < 0x800 ∧
      lead.toNat = 0xc0 + char.toNat / 0x40 ∧ next.toNat = 0x80 + char.toNat % 0x40 := by
  simp only [twoBytes?, Option.bind_eq_bind, Option.bind_eq_some_iff, continuation?_eq_some_iff,
    Option.ite_none_right_eq_some, Option.some_inj]
  constructor
  · rintro ⟨low, ⟨small, read⟩, bounds, same⟩
    have number := (ofNat_eq_iff (.inl (by omega))).1 same
    omega
  · rintro ⟨low, high, first, second⟩
    refine ⟨char.toNat % 0x40, by omega, by omega, (ofNat_eq_iff (.inl (by omega))).2 (by omega)⟩

theorem threeBytes?_eq_some_iff :
    threeBytes? lead next third = some char ↔ 0x800 ≤ char.toNat ∧ char.toNat < 0x10000 ∧
      lead.toNat = 0xe0 + char.toNat / 0x1000 ∧ next.toNat = 0x80 + char.toNat / 0x40 % 0x40 ∧
        third.toNat = 0x80 + char.toNat % 0x40 := by
  simp only [threeBytes?, Option.bind_eq_bind, Option.bind_eq_some_iff,
    continuation?_eq_some_iff, Option.ite_none_right_eq_some, Option.some_inj]
  constructor
  · rintro ⟨middle, ⟨small, read⟩, low, ⟨_, _⟩, ⟨_, _, _, valid⟩, same⟩
    have number := (ofNat_eq_iff valid).1 same
    omega
  · rintro ⟨low, high, first, second, last⟩
    have code : (lead.toNat - 0xe0) * 0x1000 + char.toNat / 0x40 % 0x40 * 0x40 +
        char.toNat % 0x40 = char.toNat := by omega
    have valid : char.toNat.isValidChar := char.valid
    refine ⟨char.toNat / 0x40 % 0x40, by omega, char.toNat % 0x40, by omega, ?_⟩
    rw [code]
    exact ⟨⟨by omega, by omega, low, valid⟩, Char.ofNat_toNat char⟩

theorem fourBytes?_eq_some_iff :
    fourBytes? lead next third fourth = some char ↔ 0x10000 ≤ char.toNat ∧
      lead.toNat = 0xf0 + char.toNat / 0x40000 ∧ next.toNat = 0x80 + char.toNat / 0x1000 % 0x40 ∧
        third.toNat = 0x80 + char.toNat / 0x40 % 0x40 ∧
        fourth.toNat = 0x80 + char.toNat % 0x40 := by
  simp only [fourBytes?, Option.bind_eq_bind, Option.bind_eq_some_iff,
    continuation?_eq_some_iff, Option.ite_none_right_eq_some, Option.some_inj]
  constructor
  · rintro ⟨high, ⟨_, _⟩, middle, ⟨_, _⟩, low, ⟨_, _⟩, ⟨_, _, valid⟩, same⟩
    have number := (ofNat_eq_iff valid).1 same
    omega
  · rintro ⟨low, first, second, third, last⟩
    have code : (lead.toNat - 0xf0) * 0x40000 + char.toNat / 0x1000 % 0x40 * 0x1000 +
        char.toNat / 0x40 % 0x40 * 0x40 + char.toNat % 0x40 = char.toNat := by omega
    have valid : char.toNat.isValidChar := char.valid
    refine ⟨char.toNat / 0x1000 % 0x40, by omega, char.toNat / 0x40 % 0x40, by omega,
      char.toNat % 0x40, by omega, ?_⟩
    rw [code]
    exact ⟨⟨by omega, low, valid⟩, Char.ofNat_toNat char⟩

theorem encodeChar_of_twoBytes? (decoded : twoBytes? lead next = some char) :
    String.utf8EncodeChar char = [lead, next] := by
  obtain ⟨low, high, first, second⟩ := twoBytes?_eq_some_iff.1 decoded
  rw [encodeChar_two low high, eq_ofNat first, eq_ofNat second]

theorem encodeChar_of_threeBytes? (decoded : threeBytes? lead next third = some char) :
    String.utf8EncodeChar char = [lead, next, third] := by
  obtain ⟨low, high, first, second, last⟩ := threeBytes?_eq_some_iff.1 decoded
  rw [encodeChar_three low high, eq_ofNat first, eq_ofNat second, eq_ofNat last]

theorem encodeChar_of_fourBytes? (decoded : fourBytes? lead next third fourth = some char) :
    String.utf8EncodeChar char = [lead, next, third, fourth] := by
  obtain ⟨low, first, second, third, last⟩ := fourBytes?_eq_some_iff.1 decoded
  rw [encodeChar_four low, eq_ofNat first, eq_ofNat second, eq_ofNat third, eq_ofNat last]

/-- A byte that begins longer sequences begins no shorter one. -/
theorem twoBytes?_eq_none (high : 0xe0 ≤ lead.toNat) : twoBytes? lead next = none := by
  rw [Option.eq_none_iff_forall_ne_some]
  intro char decoded
  obtain ⟨_, _, first, _⟩ := twoBytes?_eq_some_iff.1 decoded
  omega

theorem threeBytes?_eq_none (high : 0xf0 ≤ lead.toNat) : threeBytes? lead next third = none := by
  rw [Option.eq_none_iff_forall_ne_some]
  intro char decoded
  obtain ⟨_, _, first, _⟩ := threeBytes?_eq_some_iff.1 decoded
  omega

/-! ## Decoding -/

section Decoding

variable {offset : Nat} {rest : List UInt8}

theorem decodeFrom_one (small : lead.toNat < 0x80) :
    decodeFrom offset (lead :: rest) =
      (decodeFrom (offset + 1) rest).map (Char.ofNat lead.toNat :: ·) := by
  rw [decodeFrom.eq_def]
  exact if_pos small

theorem decodeFrom_two (decoded : twoBytes? lead next = some char) :
    decodeFrom offset (lead :: next :: rest) =
      (decodeFrom (offset + 2) rest).map (char :: ·) := by
  have large : ¬lead.toNat < 0x80 := by
    obtain ⟨_, _, first, _⟩ := twoBytes?_eq_some_iff.1 decoded
    omega
  rw [decodeFrom.eq_def]
  simp only [if_neg large, decoded]

theorem decodeFrom_three (decoded : threeBytes? lead next third = some char) :
    decodeFrom offset (lead :: next :: third :: rest) =
      (decodeFrom (offset + 3) rest).map (char :: ·) := by
  obtain ⟨_, _, first, _⟩ := threeBytes?_eq_some_iff.1 decoded
  have large : ¬lead.toNat < 0x80 := by omega
  have longer : twoBytes? lead next = none := twoBytes?_eq_none (by omega)
  rw [decodeFrom.eq_def]
  simp only [if_neg large, longer, decoded]

theorem decodeFrom_four (decoded : fourBytes? lead next third fourth = some char) :
    decodeFrom offset (lead :: next :: third :: fourth :: rest) =
      (decodeFrom (offset + 4) rest).map (char :: ·) := by
  obtain ⟨_, first, _⟩ := fourBytes?_eq_some_iff.1 decoded
  have large : ¬lead.toNat < 0x80 := by omega
  have longer : twoBytes? lead next = none := twoBytes?_eq_none (by omega)
  have longest : threeBytes? lead next third = none := threeBytes?_eq_none (by omega)
  rw [decodeFrom.eq_def]
  simp only [if_neg large, longer, longest, decoded]

end Decoding

/-- The bytes of a character are decoded as that character, whatever comes after them. -/
theorem decodeFrom_encodeChar (offset : Nat) (char : Char) (rest : List UInt8) :
    decodeFrom offset (String.utf8EncodeChar char ++ rest) =
      (decodeFrom (offset + (String.utf8EncodeChar char).length) rest).map (char :: ·) := by
  have bound := toNat_lt char
  rcases Nat.lt_or_ge char.toNat 0x80 with one | aboveOne
  · have lead : (UInt8.ofNat char.toNat).toNat = char.toNat := toNat_byte (by omega)
    rw [encodeChar_one one, List.singleton_append, decodeFrom_one (by rwa [lead]), lead,
      Char.ofNat_toNat]
    rfl
  rcases Nat.lt_or_ge char.toNat 0x800 with two | aboveTwo
  · rw [encodeChar_two aboveOne two]
    exact decodeFrom_two (twoBytes?_eq_some_iff.2
      ⟨aboveOne, two, toNat_byte (by omega), toNat_byte (by omega)⟩)
  rcases Nat.lt_or_ge char.toNat 0x10000 with three | aboveThree
  · rw [encodeChar_three aboveTwo three]
    exact decodeFrom_three (threeBytes?_eq_some_iff.2
      ⟨aboveTwo, three, toNat_byte (by omega), toNat_byte (by omega), toNat_byte (by omega)⟩)
  · rw [encodeChar_four aboveThree]
    exact decodeFrom_four (fourBytes?_eq_some_iff.2 ⟨aboveThree, toNat_byte (by omega),
      toNat_byte (by omega), toNat_byte (by omega), toNat_byte (by omega)⟩)

/-- Bytes that do not begin with those of a character are ill formed where they begin. -/
theorem exists_encodeChar (offset : Nat) (bytes : List UInt8) :
    bytes = [] ∨ (∃ char rest, bytes = String.utf8EncodeChar char ++ rest) ∨
      decodeFrom offset bytes = .error offset := by
  fun_cases decodeFrom offset bytes with
  | case1 => exact .inl rfl
  | case2 lead rest small =>
      have number : (Char.ofNat lead.toNat).toNat = lead.toNat :=
        (ofNat_eq_iff (.inl (by omega))).1 rfl
      refine .inr (.inl ⟨Char.ofNat lead.toNat, rest, ?_⟩)
      rw [encodeChar_one (by rwa [number]), number, UInt8.ofNat_toNat, List.singleton_append]
  | case3 => exact .inr (.inr rfl)
  | case4 lead _ next rest char two =>
      exact .inr (.inl ⟨char, rest, by rw [encodeChar_of_twoBytes? two]; rfl⟩)
  | case5 => exact .inr (.inr rfl)
  | case6 lead _ next _ third rest char three =>
      exact .inr (.inl ⟨char, rest, by rw [encodeChar_of_threeBytes? three]; rfl⟩)
  | case7 => exact .inr (.inr rfl)
  | case8 lead _ next _ third _ fourth rest char four =>
      exact .inr (.inl ⟨char, rest, by rw [encodeChar_of_fourBytes? four]; rfl⟩)
  | case9 => exact .inr (.inr rfl)

/-- The bytes of a text are decoded as that text, whatever comes after them. -/
theorem decodeFrom_encode (offset : Nat) (front : List Char) (rest : List UInt8) :
    decodeFrom offset (encode front ++ rest) =
      (decodeFrom (offset + (encode front).length) rest).map (front ++ ·) := by
  induction front generalizing offset with
  | nil =>
      rw [encode_nil, List.nil_append]
      cases decodeFrom offset rest <;> rfl
  | cons char front induction =>
      rw [encode_cons, List.append_assoc, decodeFrom_encodeChar, induction, List.length_append,
        Nat.add_assoc]
      cases decodeFrom _ rest <;> rfl

/-- Decoding passes the bytes of a text and stops where they end, if bytes are left. -/
theorem exists_encode (offset : Nat) (bytes : List UInt8) :
    ∃ front rest, bytes = encode front ++ rest ∧
      (rest = [] ∨ decodeFrom (offset + (encode front).length) rest =
        .error (offset + (encode front).length)) := by
  generalize bound : bytes.length = length
  induction length using Nat.strongRecOn generalizing offset bytes with
  | ind length induction =>
      rcases exists_encodeChar offset bytes with rfl | ⟨char, rest, rfl⟩ | stopped
      · exact ⟨[], [], rfl, .inl rfl⟩
      · have some : 0 < (String.utf8EncodeChar char).length :=
          List.length_pos_iff.2 String.utf8EncodeChar_ne_nil
        have shorter : rest.length < length := by
          rw [← bound, List.length_append]
          exact Nat.lt_add_of_pos_left some
        obtain ⟨front, left, rfl, ending⟩ :=
          induction _ shorter (offset + (String.utf8EncodeChar char).length) rest rfl
        refine ⟨char :: front, left, by rw [encode_cons, List.append_assoc], ?_⟩
        rwa [encode_cons, List.length_append, ← Nat.add_assoc]
      · exact ⟨[], bytes, rfl, .inr stopped⟩

theorem le_of_decodeFrom_eq_error {offset place : Nat} {bytes : List UInt8}
    (stopped : decodeFrom offset bytes = .error place) : offset ≤ place := by
  obtain ⟨front, rest, rfl, rfl | left⟩ := exists_encode offset bytes
  · rw [decodeFrom_encode] at stopped
    cases stopped
  · rw [decodeFrom_encode, left] at stopped
    cases stopped
    exact Nat.le_add_right _ _

/-- Bytes are decoded as the text that they are those of, or the place of the first ill-formed
sequence is given. -/
theorem decodeFrom_outcome (offset : Nat) (bytes : List UInt8) :
    (∃ text, encode text = bytes ∧ decodeFrom offset bytes = .ok text) ∨
      ∃ place, IsFirstIllFormed bytes place ∧
        decodeFrom offset bytes = .error (offset + place) := by
  obtain ⟨front, rest, whole, ending⟩ := exists_encode offset bytes
  have passed := decodeFrom_encode offset front rest
  rw [← whole] at passed
  rcases ending with rfl | stopped
  · left
    refine ⟨front, by rw [whole, List.append_nil], ?_⟩
    rw [passed, decodeFrom, Except.map, List.append_nil]
  · right
    rw [stopped] at passed
    refine ⟨(encode front).length, ⟨?_, ⟨front, ?_⟩, ?_⟩, passed⟩
    · rw [whole, List.length_append]
      refine Nat.lt_add_of_pos_right (List.length_pos_iff.2 ?_)
      rintro rfl
      cases stopped
    · rw [whole, List.take_left]
    · rintro longer more within ⟨text, formed⟩
      have length : (encode text).length = longer := by
        rw [formed, List.length_take_of_le within]
      rw [← List.take_append_drop longer bytes, ← formed, decodeFrom_encode, length] at passed
      cases later : decodeFrom (offset + longer) (bytes.drop longer) with
      | ok text =>
          rw [later] at passed
          cases passed
      | error place =>
          rw [later] at passed
          cases passed
          have := le_of_decodeFrom_eq_error later
          omega

theorem IsFirstIllFormed.decodeFrom {bytes : List UInt8} {place : Nat}
    (first : IsFirstIllFormed bytes place) (offset : Nat) :
    decodeFrom offset bytes = .error (offset + place) := by
  rcases decodeFrom_outcome offset bytes with ⟨text, formed, _⟩ | ⟨other, second, stopped⟩
  · exact (first.not_isWellFormed ⟨text, formed⟩).elim
  · rwa [first.unique second]

/-- The bytes of a text are decoded as that text, and no other bytes are. -/
theorem decode_eq_ok_iff {bytes : List UInt8} {text : List Char} :
    decode bytes = .ok text ↔ encode text = bytes := by
  constructor
  · intro decoded
    rcases decodeFrom_outcome 0 bytes with ⟨other, formed, read⟩ | ⟨place, _, stopped⟩
    · cases decoded.symm.trans read
      exact formed
    · cases decoded.symm.trans stopped
  · rintro rfl
    have whole := decodeFrom_encode 0 text []
    rwa [List.append_nil, Utf8.decodeFrom, Except.map, List.append_nil] at whole

/-- Decoding stops where the first ill-formed sequence begins. -/
theorem decode_eq_error_iff {bytes : List UInt8} {place : Nat} :
    decode bytes = .error place ↔ IsFirstIllFormed bytes place := by
  constructor
  · intro stopped
    rcases decodeFrom_outcome 0 bytes with ⟨text, _, read⟩ | ⟨other, first, found⟩
    · cases stopped.symm.trans read
    · rw [Nat.zero_add] at found
      cases stopped.symm.trans found
      exact first
  · intro first
    rw [decode, first.decodeFrom, Nat.zero_add]

end VersionCatalog.Text.Utf8
