import VersionCatalog.Proofs.Text.Blank
import VersionCatalog.Proofs.Version.Forms

/-!
# The patterns of versions

Versions are described by patterns, and read without them: the forms by cutting a text at its dots,
a numeric release likewise. What each pattern takes is the language of the form, or of the release;
so the readers accept what the patterns match, and the numbers of a release are those of its group.
-/

namespace VersionCatalog.Version

open Text

variable {line : List Char} {groups : List (List Char)}

/-! ## Parts of the patterns -/

theorem takes_numberPattern_iff :
    numberPattern.Takes line groups ↔ IsNumber line ∧ groups = [] := by
  rw [numberPattern, Pattern.takes_atLeastOnce_oneOf_iff]
  exact and_congr_left fun _ => ⟨fun written => ⟨written.1, written.2⟩,
    fun written => ⟨written.nonempty, written.digits⟩⟩

theorem takes_dottedPattern_iff :
    dottedPattern.Takes line groups ↔
      (∃ number, IsNumber number ∧ line = '.' :: number) ∧ groups = [] := by
  simp only [dottedPattern, Pattern.takes_andThen_iff, Pattern.takes_mark_iff,
    takes_numberPattern_iff]
  constructor
  · rintro ⟨_, _, number, _, ⟨rfl, rfl⟩, ⟨written, rfl⟩, rfl, rfl⟩
    exact ⟨⟨number, written, rfl⟩, rfl⟩
  · rintro ⟨⟨number, written, rfl⟩, rfl⟩
    exact ⟨['.'], [], number, [], ⟨rfl, rfl⟩, ⟨written, rfl⟩, rfl, rfl⟩

/-- A sign and text of the same line. -/
theorem takes_signed_iff {part : Pattern} {property : List Char → Prop}
    (describes : ∀ text groups, part.Takes text groups ↔ property text ∧ groups = []) :
    (Pattern.andThen signPattern part).Takes line groups ↔
      (∃ sign text, (sign = '-' ∨ sign = '+') ∧ property text ∧ line = sign :: text) ∧
        groups = [] := by
  simp only [signPattern, Pattern.takes_andThen_iff, Pattern.takes_oneOf_iff, describes,
    Bool.or_eq_true, beq_iff_eq]
  constructor
  · rintro ⟨_, _, text, _, ⟨⟨sign, opens, rfl⟩, rfl⟩, ⟨holds, rfl⟩, rfl, rfl⟩
    exact ⟨⟨sign, text, opens, holds, rfl⟩, rfl⟩
  · rintro ⟨⟨sign, text, opens, holds, rfl⟩, rfl⟩
    exact ⟨[sign], [], text, [], ⟨⟨sign, opens, rfl⟩, rfl⟩, ⟨holds, rfl⟩, rfl, rfl⟩

/-- Numbers, each of them after a dot. -/
def dotted (numbers : List (List Char)) : List Char :=
  (numbers.map ('.' :: ·)).flatten

theorem intercalate_cons_eq (number : List Char) (numbers : List (List Char)) :
    ['.'].intercalate (number :: numbers) = number ++ dotted numbers := by
  induction numbers generalizing number with
  | nil => simp [dotted]
  | cons second numbers induction =>
      rw [List.intercalate_cons_cons, induction]
      simp [dotted]

theorem takes_many_dottedPattern_iff :
    (Pattern.many dottedPattern).Takes line groups ↔
      (∃ numbers, (∀ number ∈ numbers, IsNumber number) ∧ line = dotted numbers) ∧
        groups = [] := by
  rw [Pattern.takes_many_iff fun _ _ takes => (takes_dottedPattern_iff.1 takes).2]
  refine and_congr_left fun _ => ⟨?_, ?_⟩
  · rintro ⟨pieces, written, rfl⟩
    induction pieces with
    | nil => exact ⟨[], by simp, rfl⟩
    | cons piece pieces induction =>
        rw [List.forall_mem_cons] at written
        obtain ⟨⟨number, isNumber, rfl⟩, _⟩ := takes_dottedPattern_iff.1 written.1.2
        obtain ⟨numbers, others, same⟩ := induction written.2
        refine ⟨number :: numbers, List.forall_mem_cons.2 ⟨isNumber, others⟩, ?_⟩
        rw [List.flatten_cons, same]
        rfl
  · rintro ⟨numbers, written, rfl⟩
    refine ⟨numbers.map ('.' :: ·), fun piece member => ?_, rfl⟩
    obtain ⟨number, within, rfl⟩ := List.mem_map.1 member
    exact ⟨List.cons_ne_nil _ _,
      takes_dottedPattern_iff.2 ⟨⟨number, written number within, rfl⟩, rfl⟩⟩

/-- One more number, or two, or none. -/
theorem takes_optional_dottedPattern_iff :
    (Pattern.optional (.andThen dottedPattern (.optional dottedPattern))).Takes line groups ↔
      (∃ numbers, numbers.length ≤ 2 ∧ (∀ number ∈ numbers, IsNumber number) ∧
        line = dotted numbers) ∧ groups = [] := by
  simp only [Pattern.takes_optional_iff, Pattern.takes_andThen_iff, takes_dottedPattern_iff]
  constructor
  · rintro (⟨_, _, _, _, ⟨⟨minor, minorWritten, rfl⟩, rfl⟩,
      ⟨⟨patch, patchWritten, rfl⟩, rfl⟩ | ⟨rfl, rfl⟩, rfl, rfl⟩ | ⟨rfl, rfl⟩)
    · exact ⟨⟨[minor, patch], by simp, by simp [minorWritten, patchWritten], by simp [dotted]⟩, rfl⟩
    · exact ⟨⟨[minor], by simp, by simp [minorWritten], by simp [dotted]⟩, rfl⟩
    · exact ⟨⟨[], by simp, by simp, rfl⟩, rfl⟩
  · rintro ⟨⟨numbers, most, written, rfl⟩, rfl⟩
    cases numbers with
    | nil => exact .inr ⟨rfl, rfl⟩
    | cons minor others =>
        rw [List.forall_mem_cons] at written
        refine .inl ⟨'.' :: minor, [], dotted others, [], ⟨⟨minor, written.1, rfl⟩, rfl⟩, ?_, rfl,
          rfl⟩
        cases others with
        | nil => exact .inr ⟨rfl, rfl⟩
        | cons patch others =>
            obtain rfl : others = [] := by simpa using most
            exact .inl ⟨⟨patch, written.2 patch (by simp), by simp [dotted]⟩, rfl⟩

theorem takes_many_linePattern_iff :
    (Pattern.many linePattern).Takes line groups ↔ '\n' ∉ line ∧ groups = [] := by
  simp only [linePattern, Pattern.takes_many_oneOf_iff, bne_iff_ne, List.forall_mem_ne']

theorem takes_atLeastOnce_linePattern_iff :
    (Pattern.atLeastOnce linePattern).Takes line groups ↔
      (line ≠ [] ∧ '\n' ∉ line) ∧ groups = [] := by
  simp only [linePattern, Pattern.takes_atLeastOnce_oneOf_iff, bne_iff_ne, List.forall_mem_ne']

theorem takes_semanticSuffix_iff :
    (Pattern.optional (.andThen signPattern (.atLeastOnce linePattern))).Takes line groups ↔
      (IsSemanticSuffix line ∧ '\n' ∉ line) ∧ groups = [] := by
  rw [Pattern.takes_optional_iff, takes_signed_iff fun _ _ => takes_atLeastOnce_linePattern_iff,
    ← or_and_right]
  refine and_congr_left fun _ => ?_
  rw [← isSuffix_one_iff]
  constructor
  · rintro (⟨sign, text, opens, ⟨filled, oneLine⟩, rfl⟩ | rfl)
    · exact isSuffix_cons_iff.2 ⟨opens, List.length_pos_iff.2 filled, oneLine⟩
    · rfl
  · intro holds
    cases line with
    | nil => exact .inr rfl
    | cons sign text =>
        obtain ⟨opens, filled, oneLine⟩ := isSuffix_cons_iff.1 holds
        exact .inl ⟨sign, text, opens, ⟨List.length_pos_iff.1 filled, oneLine⟩, rfl⟩

theorem takes_releaseSuffix_iff :
    (Pattern.optional (.andThen signPattern (.many linePattern))).Takes line groups ↔
      IsReleaseSuffix line ∧ groups = [] := by
  rw [Pattern.takes_optional_iff, takes_signed_iff fun _ _ => takes_many_linePattern_iff,
    ← or_and_right]
  refine and_congr_left fun _ => ?_
  constructor
  · rintro (⟨sign, text, opens, oneLine, rfl⟩ | rfl)
    · exact .signed opens oneLine
    · exact .absent
  · intro holds
    cases holds with
    | absent => exact .inr rfl
    | signed opens oneLine => exact .inl ⟨_, _, opens, oneLine, rfl⟩

/-! ## The three forms -/

theorem takes_semanticPattern_iff :
    semanticPattern.Takes line groups ↔ (Fits .semantic line ∧ '\n' ∉ line) ∧ groups = [] := by
  simp only [semanticPattern, Pattern.takes_andThen_iff, takes_numberPattern_iff,
    takes_optional_dottedPattern_iff, takes_semanticSuffix_iff]
  constructor
  · rintro ⟨major, _, _, _, ⟨majorWritten, rfl⟩, ⟨_, _, suffix, _,
      ⟨⟨others, most, written, rfl⟩, rfl⟩, ⟨⟨ends, oneLine⟩, rfl⟩, rfl, rfl⟩, rfl, rfl⟩
    have all := List.forall_mem_cons.2 ⟨majorWritten, written⟩
    refine ⟨?_, rfl⟩
    rw [← List.append_assoc, ← intercalate_cons_eq, List.mem_append, not_or]
    exact ⟨.semantic (List.cons_ne_nil _ _) (Nat.succ_le_succ most) all ends,
      newline_notMem_intercalate all, oneLine⟩
  · rintro ⟨⟨fits, oneLine⟩, rfl⟩
    cases fits with
    | @semantic numbers suffix least most written ends =>
        obtain ⟨major, others, rfl⟩ := List.exists_cons_of_ne_nil least
        rw [List.mem_append, not_or] at oneLine
        rw [List.forall_mem_cons] at written
        rw [intercalate_cons_eq, List.append_assoc]
        exact ⟨major, [], dotted others ++ suffix, [], ⟨written.1, rfl⟩, ⟨dotted others, [], suffix,
          [], ⟨⟨others, Nat.le_of_succ_le_succ most, written.2, rfl⟩, rfl⟩,
          ⟨⟨ends, oneLine.2⟩, rfl⟩, rfl, rfl⟩, rfl, rfl⟩

theorem takes_wildcardPattern_iff :
    wildcardPattern.Takes line groups ↔ Fits .wildcard line ∧ groups = [] := by
  simp only [wildcardPattern, Pattern.takes_andThen_iff, takes_numberPattern_iff,
    takes_dottedPattern_iff, Pattern.takes_mark_iff]
  constructor
  · rintro ⟨major, _, _, _, ⟨majorWritten, rfl⟩, ⟨_, _, _, _, ⟨⟨minor, minorWritten, rfl⟩, rfl⟩,
      ⟨_, _, _, _, ⟨rfl, rfl⟩, ⟨rfl, rfl⟩, rfl, rfl⟩, rfl, rfl⟩, rfl, rfl⟩
    refine ⟨?_, rfl⟩
    have fits := Fits.wildcard majorWritten minorWritten
    simpa using fits
  · rintro ⟨fits, rfl⟩
    cases fits with
    | @wildcard major minor majorWritten minorWritten =>
        exact ⟨major, [], '.' :: minor ++ ['.', '+'], [], ⟨majorWritten, rfl⟩,
          ⟨'.' :: minor, [], ['.', '+'], [], ⟨⟨minor, minorWritten, rfl⟩, rfl⟩,
            ⟨['.'], [], ['+'], [], ⟨rfl, rfl⟩, ⟨rfl, rfl⟩, rfl, rfl⟩, rfl, rfl⟩, by simp, rfl⟩

theorem takes_rangePattern_iff :
    rangePattern.Takes line groups ↔ Fits .range line ∧ groups = [] := by
  simp only [rangePattern, Pattern.takes_andThen_iff, Pattern.takes_oneOf_iff,
    Pattern.takes_atLeastOnce_oneOf_iff, isRangeChar_iff, Bool.or_eq_true, beq_iff_eq]
  constructor
  · rintro ⟨_, _, _, _, ⟨⟨opening, opens, rfl⟩, rfl⟩, ⟨bounds, _, _, _, ⟨⟨filled, written⟩, rfl⟩,
      ⟨⟨closing, closes, rfl⟩, rfl⟩, rfl, rfl⟩, rfl, rfl⟩
    exact ⟨.range opens filled written closes, rfl⟩
  · rintro ⟨fits, rfl⟩
    cases fits with
    | @range opening closing bounds opens filled written closes =>
        exact ⟨[opening], [], bounds ++ [closing], [], ⟨⟨opening, opens, rfl⟩, rfl⟩,
          ⟨bounds, [], [closing], [], ⟨⟨filled, written⟩, rfl⟩, ⟨⟨closing, closes, rfl⟩, rfl⟩,
            rfl, rfl⟩, rfl, rfl⟩

/-- A text is accepted as a version exactly when one of the three patterns matches it up to its
end. -/
theorem isVersion_eq_isSome_matchLine? (text : String) :
    isVersion text = ((semanticPattern.matchLine? text.toList).isSome ||
      (wildcardPattern.matchLine? text.toList).isSome ||
        (rangePattern.matchLine? text.toList).isSome) := by
  rw [Bool.eq_iff_iff, isVersion_iff_exists_line]
  simp only [Bool.or_eq_true,
    isSome_matchLine?_iff_isLineOf (fun _ _ => takes_semanticPattern_iff) fun _ => And.right,
    isSome_matchLine?_iff_isLineOf (fun _ _ => takes_wildcardPattern_iff)
      fun _ fits => fits.newline_notMem (by decide),
    isSome_matchLine?_iff_isLineOf (fun _ _ => takes_rangePattern_iff)
      fun _ fits => fits.newline_notMem (by decide)]
  constructor
  · rintro ⟨line, whole, semantic | wildcard | range⟩
    · exact .inl (.inl ⟨line, whole, semantic, whole.1⟩)
    · exact .inl (.inr ⟨line, whole, wildcard⟩)
    · exact .inr ⟨line, whole, range⟩
  · rintro ((⟨line, whole, semantic, _⟩ | ⟨line, whole, wildcard⟩) | ⟨line, whole, range⟩)
    · exact ⟨line, whole, .inl semantic⟩
    · exact ⟨line, whole, .inr (.inl wildcard)⟩
    · exact ⟨line, whole, .inr (.inr range)⟩

/-! ## Releases -/

theorem takes_releasePattern_iff :
    releasePattern.Takes line groups ↔
      ∃ numbers, IsRelease line numbers ∧ groups = [['.'].intercalate numbers] := by
  simp only [releasePattern, Pattern.takes_andThen_iff, Pattern.takes_group_iff,
    takes_numberPattern_iff, takes_many_dottedPattern_iff, takes_releaseSuffix_iff]
  constructor
  · rintro ⟨_, _, suffix, _, ⟨_, ⟨first, _, _, _, ⟨firstWritten, rfl⟩,
      ⟨⟨others, written, rfl⟩, rfl⟩, rfl, rfl⟩, rfl⟩, ⟨ends, rfl⟩, rfl, rfl⟩
    have all := forall_isNumber_iff.1 (List.forall_mem_cons.2 ⟨firstWritten, written⟩)
    rw [← intercalate_cons_eq]
    exact ⟨first :: others, ⟨List.cons_ne_nil _ _, all.1, all.2, suffix, rfl, ends⟩, rfl⟩
  · rintro ⟨numbers, ⟨nonempty, filled, digits, suffix, rfl, ends⟩, rfl⟩
    obtain ⟨first, others, rfl⟩ := List.exists_cons_of_ne_nil nonempty
    have all := List.forall_mem_cons.1 (forall_isNumber_iff.2 ⟨filled, digits⟩)
    rw [intercalate_cons_eq]
    exact ⟨first ++ dotted others, [first ++ dotted others], suffix, [],
      ⟨[], ⟨first, [], dotted others, [], ⟨all.1, rfl⟩, ⟨⟨others, all.2, rfl⟩, rfl⟩, rfl, rfl⟩,
        rfl⟩, ⟨ends, rfl⟩, rfl, rfl⟩

/-- The release of a version is read from the group of its pattern, cut at the dots; where the
pattern does not match there is none. -/
theorem release?_eq_elim_matchLine? (version : String) :
    release? version =
      ((releasePattern.matchLine? (strip version.toList)).bind (·.groups.head?)).elim (.ok none)
        fun release => (readNumbers (fields '.' release)).map some := by
  cases reached : releasePattern.matchLine? (strip version.toList) with
  | none =>
      refine release?_of_not_isRelease fun numbers release => ?_
      have matched := Pattern.isSome_matchLine?_iff.2
        ⟨_, _, takes_releasePattern_iff.2 ⟨numbers, release, rfl⟩, .inl rfl⟩
      rw [reached] at matched
      cases matched
  | some found =>
      obtain ⟨line, takes, whole | ended⟩ := Pattern.takes_of_matchLine? reached
      · obtain ⟨numbers, release, kept⟩ := takes_releasePattern_iff.1 takes
        rw [← whole] at release
        have undotted : ∀ number ∈ numbers, '.' ∉ number := fun number member inside =>
          absurd (release.digits number member '.' inside) (by decide)
        rw [release?_of_isRelease release, Option.bind_some, kept, List.head?_cons,
          Option.elim_some, fields_intercalate release.nonempty undotted]
      · exact (strip_ne_append_newline _ _ ended).elim

end VersionCatalog.Version
