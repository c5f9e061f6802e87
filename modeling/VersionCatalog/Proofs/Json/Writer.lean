import VersionCatalog.Json.Writer

/-!
# The characters of a written value

A value is written without control characters: those of a text are escaped, and the line feeds of
the layout are the only ones. No device that gets it finds a control sequence in it, and on one line
it has no line feed either.
-/

namespace VersionCatalog.Json

open Text

/-- A character that is no control character of the basic Latin range. -/
def IsVisible (char : Char) : Prop :=
  0x20 ≤ char.toNat

instance : DecidablePred IsVisible := fun char =>
  inferInstanceAs (Decidable (0x20 ≤ char.toNat))

/-- A visible character, or a line feed where the layout has lines. -/
def IsShown (layout : Layout) (char : Char) : Prop :=
  IsVisible char ∨ layout ≠ .line ∧ char = '\n'

/-- The characters of a known text are looked at one after another. -/
theorem forall_isVisible_of_all {chars : List Char}
    (visible : (chars.all fun char => decide (IsVisible char)) = true) :
    ∀ char ∈ chars, IsVisible char := by
  simpa only [List.all_eq_true, decide_eq_true_eq] using visible

/-! ## Numbers -/

theorem isVisible_of_isDigit {char : Char} (digit : char.isDigit = true) : IsVisible char := by
  rw [Char.isDigit, Bool.and_eq_true, decide_eq_true_eq] at digit
  have low : '0'.toNat ≤ char.toNat := digit.1
  exact Nat.le_trans (by decide) low

theorem forall_toDigits_isVisible (number : Nat) :
    ∀ char ∈ Nat.toDigits 10 number, IsVisible char :=
  fun _ member => isVisible_of_isDigit (Nat.isDigit_of_mem_toDigits (by decide) (by decide) member)

theorem forall_integer_isVisible (value : Int) :
    ∀ char ∈ (toString value).toList, IsVisible char := by
  rw [Int.toString_eq_repr]
  cases value with
  | ofNat number =>
      rw [Int.repr, Nat.toList_repr]
      exact forall_toDigits_isVisible number
  | negSucc number =>
      rw [Int.repr, String.toList_append, Nat.toList_repr, List.forall_mem_append]
      exact ⟨forall_isVisible_of_all rfl, forall_toDigits_isVisible _⟩

theorem forall_replicate_isVisible {char : Char} (shown : IsVisible char) (count : Nat) :
    ∀ other ∈ List.replicate count char, IsVisible other := by
  intro other member
  rwa [List.eq_of_mem_replicate member]

theorem forall_pointed_isVisible {digits : List Char} (shown : ∀ char ∈ digits, IsVisible char)
    (place : Int) : ∀ char ∈ Binary64.pointed digits place, IsVisible char := by
  have zeros := @forall_replicate_isVisible '0' (by decide)
  have front (count : Nat) : ∀ char ∈ digits.take count, IsVisible char :=
    fun char member => shown char (List.mem_of_mem_take member)
  have back (count : Nat) : ∀ char ∈ digits.drop count, IsVisible char :=
    fun char member => shown char (List.mem_of_mem_drop member)
  have point : IsVisible '.' := by decide
  have zero : IsVisible '0' := by decide
  unfold Binary64.pointed
  split
  · simp only [List.cons_append, List.forall_mem_cons, List.forall_mem_append]
    exact ⟨zero, point, zeros _, shown⟩
  · simp only [List.forall_mem_cons, List.forall_mem_append]
    refine ⟨⟨front _, zeros _⟩, point, ?_⟩
    split
    · simpa using zero
    · exact back _

theorem forall_scientific_isVisible {digits : List Char} (shown : ∀ char ∈ digits, IsVisible char)
    (place : Int) : ∀ char ∈ Binary64.scientific digits place, IsVisible char := by
  have zeros := @forall_replicate_isVisible '0' (by decide)
  unfold Binary64.scientific
  simp only [List.forall_mem_append]
  refine ⟨⟨⟨?_, ?_⟩, zeros _⟩, forall_toDigits_isVisible _⟩
  · split
    · next first second others =>
        simp only [List.forall_mem_cons] at shown ⊢
        exact ⟨shown.1, by decide, shown.2⟩
    · exact shown
  · split
    · exact forall_isVisible_of_all rfl
    · exact forall_isVisible_of_all rfl

theorem forall_shortest_isVisible (significand : Nat) (exponent : Int) :
    ∀ char ∈ (Binary64.shortest significand exponent).1, IsVisible char := by
  intro char member
  simp only [Binary64.shortest, List.mem_reverse] at member
  exact forall_toDigits_isVisible _ char
    (List.mem_reverse.1 ((List.dropWhile_sublist _).mem member))

theorem forall_numeral_isVisible (value : Binary64) :
    ∀ char ∈ value.numeral.toList, IsVisible char := by
  cases value with
  | nan => exact forall_isVisible_of_all rfl
  | infinite negative => cases negative <;> exact forall_isVisible_of_all rfl
  | finite negative significand exponent =>
      have digits : ∀ char ∈ (if significand = 0 then ['0', '.', '0'] else
          if -4 < (Binary64.shortest significand exponent).2 ∧
              (Binary64.shortest significand exponent).2 ≤ 16 then
            Binary64.pointed (Binary64.shortest significand exponent).1
              (Binary64.shortest significand exponent).2
          else
            Binary64.scientific (Binary64.shortest significand exponent).1
              (Binary64.shortest significand exponent).2), IsVisible char := by
        have shown := forall_shortest_isVisible significand exponent
        split
        · exact forall_isVisible_of_all rfl
        · split
          · exact forall_pointed_isVisible shown _
          · exact forall_scientific_isVisible shown _
      simp only [Binary64.numeral, String.toList_ofList]
      split
      · rw [List.forall_mem_cons]
        exact ⟨by decide, digits⟩
      · exact digits

theorem forall_realText_isVisible (value : Binary64) :
    ∀ char ∈ (realText value).toList, IsVisible char := by
  cases value with
  | nan => exact forall_isVisible_of_all rfl
  | infinite negative => cases negative <;> exact forall_isVisible_of_all rfl
  | finite negative significand exponent => exact forall_numeral_isVisible _

/-! ## Texts -/

theorem forall_hexadecimal_isVisible (width number : Nat) :
    ∀ char ∈ hexadecimal width number, IsVisible char := by
  have digits : ∀ value ∈ List.range 16, IsVisible (hexDigit value) := by decide
  induction width generalizing number with
  | zero => exact nofun
  | succ width induction =>
      rw [hexadecimal, List.forall_mem_append, List.forall_mem_singleton]
      exact ⟨induction _, digits _ (List.mem_range.2 (Nat.mod_lt _ (by decide)))⟩

/-- Control characters are escaped. -/
theorem forall_escapedChar_isVisible (char : Char) :
    ∀ other ∈ escapedChar char, IsVisible other := by
  unfold escapedChar
  split
  iterate 7 · exact forall_isVisible_of_all rfl
  split
  · simp only [List.forall_mem_cons]
    exact ⟨by decide, by decide, forall_hexadecimal_isVisible _ _⟩
  · next visible =>
      rw [List.forall_mem_singleton]
      exact Nat.not_lt.1 visible

theorem forall_escaped_isVisible (content : String) : ∀ char ∈ escaped content, IsVisible char := by
  simp only [escaped, List.cons_append, List.forall_mem_cons, List.forall_mem_append,
    List.mem_flatMap]
  refine ⟨by decide, ?_, by decide, nofun⟩
  rintro char ⟨source, _, member⟩
  exact forall_escapedChar_isVisible source char member

/-! ## Values -/

theorem isShown_of_forall_isVisible {chars : List Char} (layout : Layout)
    (visible : ∀ char ∈ chars, IsVisible char) : ∀ char ∈ chars, IsShown layout char :=
  fun char member => .inl (visible char member)

theorem forall_margin_isShown (layout : Layout) (level : Nat) :
    ∀ char ∈ layout.margin level, IsShown layout char := by
  cases layout with
  | line => exact nofun
  | indented width =>
      rw [Layout.margin, List.forall_mem_cons]
      exact ⟨.inr ⟨nofun, rfl⟩,
        isShown_of_forall_isVisible _ (forall_replicate_isVisible (by decide) _)⟩

theorem forall_separator_isShown (layout : Layout) (level : Nat) :
    ∀ char ∈ layout.separator level, IsShown layout char := by
  cases layout with
  | line => exact isShown_of_forall_isVisible _ (forall_isVisible_of_all rfl)
  | indented width =>
      rw [Layout.separator, List.forall_mem_cons]
      exact ⟨.inl (by decide), forall_margin_isShown (.indented width) level⟩

section Parts

variable {layout : Layout} {parts : List (List Char)}

theorem forall_intercalate_isShown {separator : List Char}
    (between : ∀ char ∈ separator, IsShown layout char)
    (inside : ∀ part ∈ parts, ∀ char ∈ part, IsShown layout char) :
    ∀ char ∈ separator.intercalate parts, IsShown layout char := by
  induction parts with
  | nil => exact nofun
  | cons first parts induction =>
      rw [List.forall_mem_cons] at inside
      cases parts with
      | nil =>
          rw [List.intercalate_singleton]
          exact inside.1
      | cons second parts =>
          rw [List.intercalate_cons_cons, List.forall_mem_append, List.forall_mem_append]
          exact ⟨⟨inside.1, between⟩, induction inside.2⟩

theorem forall_enclosed_isShown {opening closing : Char} (level : Nat)
    (opens : IsVisible opening) (closes : IsVisible closing)
    (inside : ∀ part ∈ parts, ∀ char ∈ part, IsShown layout char) :
    ∀ char ∈ enclosed layout level opening closing parts, IsShown layout char := by
  unfold enclosed
  split
  · simp only [List.forall_mem_cons]
    exact ⟨.inl opens, .inl closes, nofun⟩
  · simp only [List.cons_append, List.forall_mem_cons, List.forall_mem_append]
    exact ⟨.inl opens, ⟨⟨forall_margin_isShown _ _,
      forall_intercalate_isShown (forall_separator_isShown _ _) inside⟩,
      forall_margin_isShown _ _⟩, .inl closes, nofun⟩

end Parts

mutual

/-- A written value has no control characters but the line feeds of its layout. -/
theorem forall_renderAt_isShown (layout : Layout) (level : Nat) (value : Json) :
    ∀ char ∈ renderAt layout level value, IsShown layout char := by
  match value with
  | .null =>
      rw [renderAt]
      exact isShown_of_forall_isVisible _ (forall_isVisible_of_all rfl)
  | .bool true =>
      rw [renderAt]
      exact isShown_of_forall_isVisible _ (forall_isVisible_of_all rfl)
  | .bool false =>
      rw [renderAt]
      exact isShown_of_forall_isVisible _ (forall_isVisible_of_all rfl)
  | .integer value => exact isShown_of_forall_isVisible _ (forall_integer_isVisible value)
  | .real value => exact isShown_of_forall_isVisible _ (forall_realText_isVisible value)
  | .text content => exact isShown_of_forall_isVisible _ (forall_escaped_isVisible content)
  | .array items =>
      exact forall_enclosed_isShown level (by decide) (by decide)
        (forall_renderItems_isShown layout (level + 1) items)
  | .object members =>
      exact forall_enclosed_isShown level (by decide) (by decide)
        (forall_renderMembers_isShown layout (level + 1) members)

theorem forall_renderItems_isShown (layout : Layout) (level : Nat) (items : List Json) :
    ∀ part ∈ renderItems layout level items, ∀ char ∈ part, IsShown layout char := by
  match items with
  | [] => exact nofun
  | item :: items =>
      rw [renderItems, List.forall_mem_cons]
      exact ⟨forall_renderAt_isShown layout level item,
        forall_renderItems_isShown layout level items⟩

theorem forall_renderMembers_isShown (layout : Layout) (level : Nat)
    (members : List (String × Json)) :
    ∀ part ∈ renderMembers layout level members, ∀ char ∈ part, IsShown layout char := by
  match members with
  | [] => exact nofun
  | (key, value) :: members =>
      rw [renderMembers, List.forall_mem_cons, List.forall_mem_append]
      have name : ∀ char ∈ escaped key ++ [':', ' '], IsVisible char :=
        List.forall_mem_append.2 ⟨forall_escaped_isVisible key, forall_isVisible_of_all rfl⟩
      exact ⟨⟨isShown_of_forall_isVisible _ name, forall_renderAt_isShown layout level value⟩,
        forall_renderMembers_isShown layout level members⟩

end

/-- A value on one line has no line feed. -/
theorem lineFeed_notMem_render (value : Json) : '\n' ∉ (value.render .line).toList := by
  intro member
  rw [render, String.toList_ofList] at member
  rcases forall_renderAt_isShown .line 0 value _ member with visible | ⟨broken, -⟩
  · exact absurd visible (by decide)
  · exact broken rfl

end VersionCatalog.Json
