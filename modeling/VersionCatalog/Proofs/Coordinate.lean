import VersionCatalog.Coordinate
import VersionCatalog.Proofs.Text.Pattern
import VersionCatalog.Proofs.Version.Forms

/-!
# The languages of coordinates

A module is a group and an artifact with a colon between, and a plugin identifier has a dot inside.
Both languages are given here by where the separator stands. The reader looks for it in ways of its
own: it cuts a module at every colon, and an identifier loses its first and its last character. It
accepts the texts of the two languages and, moreover, those texts with a line feed after them.
-/

namespace VersionCatalog

open Text

/-- A Latin letter, an ASCII digit, a dot, a low line or a hyphen. -/
def IsNameChar (char : Char) : Prop :=
  ('A' ≤ char ∧ char ≤ 'Z') ∨ ('a' ≤ char ∧ char ≤ 'z') ∨ ('0' ≤ char ∧ char ≤ '9') ∨
    char = '.' ∨ char = '_' ∨ char = '-'

/-- A group and an artifact, neither of them empty, with a colon between. -/
inductive IsGroupAndArtifact : List Char → Prop where
  | joined {group artifact : List Char} (groupFilled : group ≠ []) (artifactFilled : artifact ≠ [])
      (groupWritten : ∀ char ∈ group, IsNameChar char)
      (artifactWritten : ∀ char ∈ artifact, IsNameChar char) :
      IsGroupAndArtifact (group ++ ':' :: artifact)

/-- A name in which some dot stands neither first nor last. -/
structure IsDottedName (name : List Char) : Prop where
  written : ∀ char ∈ name, IsNameChar char
  /-- The place of the dot is neither the first nor the last one. -/
  dotted : ∃ place, 0 < place ∧ place + 1 < name.length ∧ name[place]? = some '.'

variable {line : List Char}

/-! ## Characters -/

theorem isUpper_iff {char : Char} : char.isUpper = true ↔ 'A' ≤ char ∧ char ≤ 'Z' :=
  decide_eq_true_iff

theorem isLower_iff {char : Char} : char.isLower = true ↔ 'a' ≤ char ∧ char ≤ 'z' :=
  Bool.and_eq_true_iff.trans (and_congr decide_eq_true_iff decide_eq_true_iff)

theorem isAsciiDigit_iff {char : Char} : char.isDigit = true ↔ '0' ≤ char ∧ char ≤ '9' :=
  Bool.and_eq_true_iff.trans (and_congr decide_eq_true_iff decide_eq_true_iff)

theorem isAlphanum_iff {char : Char} :
    char.isAlphanum = true ↔
      ('A' ≤ char ∧ char ≤ 'Z') ∨ ('a' ≤ char ∧ char ≤ 'z') ∨ ('0' ≤ char ∧ char ≤ '9') := by
  rw [← isUpper_iff, ← isLower_iff, ← isAsciiDigit_iff, ← or_assoc, ← Bool.or_eq_true_iff,
    ← Bool.or_eq_true_iff]
  rfl

theorem isCoordinateChar_iff {char : Char} : isCoordinateChar char = true ↔ IsNameChar char := by
  simp only [isCoordinateChar, IsNameChar, Bool.or_eq_true, isAlphanum_iff, beq_iff_eq, or_assoc]

theorem not_isNameChar_newline : ¬IsNameChar '\n' := by
  rw [← isCoordinateChar_iff]
  decide

theorem not_isNameChar_colon : ¬IsNameChar ':' := by
  rw [← isCoordinateChar_iff]
  decide

theorem all_isCoordinateChar_iff :
    line.all isCoordinateChar = true ↔ ∀ char ∈ line, IsNameChar char := by
  simp only [List.all_eq_true, isCoordinateChar_iff]

/-! ## The two languages -/

theorem IsGroupAndArtifact.newline_notMem (holds : IsGroupAndArtifact line) : '\n' ∉ line := by
  cases holds with
  | joined _ _ groupWritten artifactWritten =>
      simp only [List.mem_append, List.mem_cons, not_or]
      exact ⟨fun inside => not_isNameChar_newline (groupWritten _ inside), by decide,
        fun inside => not_isNameChar_newline (artifactWritten _ inside)⟩

theorem IsDottedName.newline_notMem (holds : IsDottedName line) : '\n' ∉ line :=
  fun inside => not_isNameChar_newline (holds.written _ inside)

theorem isModule_iff_isGroupAndArtifact {text : String} :
    isModule text = true ↔ IsGroupAndArtifact (dropFinalNewline text.toList) := by
  rw [isModule]
  generalize dropFinalNewline text.toList = line
  constructor
  · intro holds
    split at holds
    · next group artifact parts =>
        simp only [Bool.and_eq_true, Bool.not_eq_true', List.isEmpty_eq_false_iff,
          all_isCoordinateChar_iff, and_assoc] at holds
        obtain ⟨groupFilled, artifactFilled, groupWritten, artifactWritten⟩ := holds
        have whole := intercalate_fields ':' line
        rw [parts, List.intercalate_cons_cons, List.intercalate_singleton,
          List.append_assoc] at whole
        rw [← whole]
        exact .joined groupFilled artifactFilled groupWritten artifactWritten
    · cases holds
  · intro holds
    cases holds with
    | @joined group artifact groupFilled artifactFilled groupWritten artifactWritten =>
        have joined : group ++ ':' :: artifact = [':'].intercalate [group, artifact] := by simp
        have single : ∀ piece ∈ [group, artifact], ':' ∉ piece := by
          simp only [List.forall_mem_cons]
          exact ⟨fun inside => not_isNameChar_colon (groupWritten _ inside),
            fun inside => not_isNameChar_colon (artifactWritten _ inside), by simp⟩
        rw [joined, fields_intercalate (List.cons_ne_nil _ _) single]
        simp only [Bool.and_eq_true, Bool.not_eq_true', List.isEmpty_eq_false_iff,
          all_isCoordinateChar_iff, and_assoc]
        exact ⟨groupFilled, artifactFilled, groupWritten, artifactWritten⟩

/-- What is left without the first and the last character is what stands between them. -/
theorem mem_dropLast_drop_one_iff {name : List Char} {char : Char} :
    char ∈ (name.drop 1).dropLast ↔
      ∃ place, 0 < place ∧ place + 1 < name.length ∧ name[place]? = some char := by
  constructor
  · intro member
    obtain ⟨place, found⟩ := List.mem_iff_getElem?.1 member
    rw [List.getElem?_dropLast, List.length_drop] at found
    split at found
    · rw [List.getElem?_drop, Nat.add_comm] at found
      exact ⟨place + 1, Nat.succ_pos place, by omega, found⟩
    · cases found
  · rintro ⟨place, afterFirst, beforeLast, found⟩
    have inside : place - 1 < name.length - 1 - 1 := by omega
    refine List.mem_iff_getElem?.2 ⟨place - 1, ?_⟩
    rw [List.getElem?_dropLast, List.length_drop, if_pos inside, List.getElem?_drop,
      Nat.add_sub_cancel' afterFirst, found]

theorem isPluginId_iff_isDottedName {text : String} :
    isPluginId text = true ↔ IsDottedName (dropFinalNewline text.toList) := by
  simp only [isPluginId, Bool.and_eq_true, all_isCoordinateChar_iff, List.contains_eq_mem,
    decide_eq_true_eq, mem_dropLast_drop_one_iff]
  exact ⟨fun holds => ⟨holds.1, holds.2⟩, fun holds => ⟨holds.written, holds.dotted⟩⟩

/-! ## The patterns -/

theorem takes_namePattern_iff {groups : List (List Char)} :
    namePattern.Takes line groups ↔ (line ≠ [] ∧ ∀ char ∈ line, IsNameChar char) ∧ groups = [] := by
  simp only [namePattern, Pattern.takes_atLeastOnce_oneOf_iff, isCoordinateChar_iff]

/-- Names with a mark between them. -/
theorem takes_joined_iff {joint : Char} {groups : List (List Char)} :
    (Pattern.andThen namePattern (.andThen (.mark joint) namePattern)).Takes line groups ↔
      (∃ front back, (front ≠ [] ∧ ∀ char ∈ front, IsNameChar char) ∧
        (back ≠ [] ∧ ∀ char ∈ back, IsNameChar char) ∧ line = front ++ joint :: back) ∧
          groups = [] := by
  simp only [Pattern.takes_andThen_iff, takes_namePattern_iff, Pattern.takes_mark_iff]
  constructor
  · rintro ⟨front, _, _, _, ⟨named, rfl⟩, ⟨_, _, back, _, ⟨rfl, rfl⟩, ⟨written, rfl⟩, rfl, rfl⟩,
      rfl, rfl⟩
    exact ⟨⟨front, back, named, written, rfl⟩, rfl⟩
  · rintro ⟨⟨front, back, named, written, rfl⟩, rfl⟩
    exact ⟨front, [], joint :: back, [], ⟨named, rfl⟩,
      ⟨[joint], [], back, [], ⟨rfl, rfl⟩, ⟨written, rfl⟩, rfl, rfl⟩, rfl, rfl⟩

theorem takes_modulePattern_iff {groups : List (List Char)} :
    modulePattern.Takes line groups ↔ IsGroupAndArtifact line ∧ groups = [] := by
  rw [modulePattern, takes_joined_iff]
  refine and_congr_left fun _ => ?_
  constructor
  · rintro ⟨group, artifact, ⟨groupFilled, groupWritten⟩, ⟨artifactFilled, artifactWritten⟩, rfl⟩
    exact .joined groupFilled artifactFilled groupWritten artifactWritten
  · intro holds
    cases holds with
    | joined groupFilled artifactFilled groupWritten artifactWritten =>
        exact ⟨_, _, ⟨groupFilled, groupWritten⟩, ⟨artifactFilled, artifactWritten⟩, rfl⟩

/-- Whichever dot the pattern of a plugin identifier is matched at, it is neither the first nor the
last character; and it can be matched at every such dot. -/
theorem takes_pluginIdPattern_iff {groups : List (List Char)} :
    pluginIdPattern.Takes line groups ↔ IsDottedName line ∧ groups = [] := by
  rw [pluginIdPattern, takes_joined_iff]
  refine and_congr_left fun _ => ?_
  constructor
  · rintro ⟨front, back, ⟨frontFilled, frontWritten⟩, ⟨backFilled, backWritten⟩, rfl⟩
    have before := List.length_pos_iff.2 frontFilled
    have after := List.length_pos_iff.2 backFilled
    refine ⟨?_, front.length, before, ?_, by simp⟩
    · simp only [List.forall_mem_append, List.forall_mem_cons]
      exact ⟨frontWritten, .inr (.inr (.inr (.inl rfl))), backWritten⟩
    · rw [List.length_append, List.length_cons]
      omega
  · rintro ⟨written, place, afterFirst, beforeLast, dotted⟩
    obtain ⟨inside, found⟩ := List.getElem?_eq_some_iff.1 dotted
    have split : line = line.take place ++ '.' :: line.drop (place + 1) := by
      rw [← found, ← List.drop_eq_getElem_cons inside, List.take_append_drop]
    refine ⟨line.take place, line.drop (place + 1), ⟨?_, ?_⟩, ⟨?_, ?_⟩, split⟩
    · rw [← List.length_pos_iff, List.length_take]
      omega
    · exact fun char member => written char (List.mem_of_mem_take member)
    · rw [← List.length_pos_iff, List.length_drop]
      omega
    · exact fun char member => written char (List.mem_of_mem_drop member)

/-- A text is accepted as a module or as a plugin identifier exactly when the pattern matches it up
to its end. -/
theorem isModule_isPluginId_eq_isSome_matchLine? (text : String) :
    isModule text = (modulePattern.matchLine? text.toList).isSome ∧
      isPluginId text = (pluginIdPattern.matchLine? text.toList).isSome := by
  constructor
  · rw [Bool.eq_iff_iff, isModule_iff_isGroupAndArtifact,
      ← exists_isLineOf_iff fun _ => IsGroupAndArtifact.newline_notMem,
      isSome_matchLine?_iff_isLineOf (fun _ _ => takes_modulePattern_iff)
        fun _ => IsGroupAndArtifact.newline_notMem]
  · rw [Bool.eq_iff_iff, isPluginId_iff_isDottedName,
      ← exists_isLineOf_iff fun _ => IsDottedName.newline_notMem,
      isSome_matchLine?_iff_isLineOf (fun _ _ => takes_pluginIdPattern_iff)
        fun _ => IsDottedName.newline_notMem]

/-! ## The lines that are accepted -/

/-- A text is a module exactly when it is a group and an artifact, and a plugin identifier exactly
when it is a name with a dot inside, a line feed after either of them not counting. -/
theorem isModule_isPluginId_iff (text : String) :
    (isModule text = true ↔ ∃ line, IsLineOf line text.toList ∧ IsGroupAndArtifact line) ∧
      (isPluginId text = true ↔ ∃ line, IsLineOf line text.toList ∧ IsDottedName line) := by
  rw [exists_isLineOf_iff fun _ => IsGroupAndArtifact.newline_notMem,
    exists_isLineOf_iff fun _ => IsDottedName.newline_notMem]
  exact ⟨isModule_iff_isGroupAndArtifact, isPluginId_iff_isDottedName⟩

/-- A line feed is accepted after a coordinate though it is part of none. -/
theorem isModule_isPluginId_newline :
    (isModule "a:b\n" = true ∧ ¬IsGroupAndArtifact "a:b\n".toList) ∧
      isPluginId "a.b\n" = true ∧ ¬IsDottedName "a.b\n".toList := by
  refine ⟨⟨by decide, fun holds => ?_⟩, by decide, fun holds => ?_⟩
  · exact holds.newline_notMem (by decide)
  · exact holds.newline_notMem (by decide)

end VersionCatalog
