import Mathlib.Data.List.Forall2
import VersionCatalog.Proofs.Json.Parts

/-!
# Reading values as they are written

A value is read back from its text, however it is laid out. `read?_render` says so of every value
without fractions in whose objects no key comes twice: the reader replaces the value of a repeated
key, and a fraction is written in rounded form.
-/

namespace VersionCatalog.Json

variable {depth gap input tail : List Char}

/-- No number in a value has a fraction, and no key comes twice in an object. -/
inductive IsPlain : Json → Prop where
  | null : IsPlain null
  | bool (value : Bool) : IsPlain (bool value)
  | integer (value : Int) : IsPlain (integer value)
  | text (content : String) : IsPlain (text content)
  | array {items : List Json} : (∀ item ∈ items, IsPlain item) → IsPlain (array items)
  | object {members : List (String × Json)} : (members.map Prod.fst).Nodup →
      (∀ member ∈ members, IsPlain member.2) → IsPlain (object members)

/-! ## The beginning of a value -/

theorem readWithin_skipGap (depth input : List Char) :
    readWithin depth (skipGap input) = readWithin depth input := by
  unfold readWithin
  rw [skipGap_idem]

theorem readWithin_gap_append (blank : ∀ char ∈ gap, isGap char = true) (input : List Char) :
    readWithin depth (gap ++ input) = readWithin depth input := by
  rw [← readWithin_skipGap, skipGap_append blank, readWithin_skipGap]

/-- No value begins with a closing bracket. -/
theorem readWithin_closing (depth input : List Char) : readWithin depth (']' :: input) = none := by
  unfold readWithin
  rw [skipGap_cons (by decide)]
  rfl

theorem readWithin_quote (depth input : List Char) :
    readWithin depth ('"' :: input) =
      (readContent none input).map fun (content, rest) =>
        (text (String.ofList content), rest) := by
  unfold readWithin
  rw [skipGap_cons (by decide)]
  rfl

theorem readWithin_digit {digit : Char} (isDigit : digit.isDigit = true) (depth input : List Char) :
    readWithin depth (digit :: input) = readNumber (digit :: input) := by
  have other : ∀ char, char.isDigit = false → digit ≠ char := by
    rintro char mark rfl
    exact absurd isDigit (by simp [mark])
  have visible : isGap digit = false := by
    simp only [isGap, Bool.or_eq_false_iff, beq_eq_false_iff_ne]
    exact ⟨⟨⟨other _ (by decide), other _ (by decide)⟩, other _ (by decide)⟩, other _ (by decide)⟩
  unfold readWithin
  rw [skipGap_cons visible]
  dsimp only
  split
  iterate 9
    · next same => exact absurd (List.cons.inj same).1 (other _ (by decide))
  rfl

theorem readWithin_minus {digit : Char} (isDigit : digit.isDigit = true)
    (depth input : List Char) :
    readWithin depth ('-' :: digit :: input) = readNumber ('-' :: digit :: input) := by
  unfold readWithin
  rw [skipGap_cons (by decide)]
  dsimp only
  split
  iterate 8
    · next same => exact absurd (List.cons.inj same).1 (by decide)
  · next same =>
      rw [(List.cons.inj (List.cons.inj same).2).1] at isDigit
      exact absurd isDigit (by decide)
  · rfl

theorem readWithin_word (depth tail : List Char) :
    readWithin depth ("null".toList ++ tail) = some (null, tail) ∧
      readWithin depth ("true".toList ++ tail) = some (bool true, tail) ∧
      readWithin depth ("false".toList ++ tail) = some (bool false, tail) := by
  refine ⟨?_, ?_, ?_⟩
  all_goals
    unfold readWithin
    rfl

/-! ## Items and members -/

/-- A reader takes one part of a text for a value, whatever white space stands before it and
whatever closes it. -/
def Takes (readItem : List Char → Option (Json × List Char)) (part : List Char) (value : Json) :
    Prop :=
  ∀ gap tail, (∀ char ∈ gap, isGap char = true) → Closes tail →
    readItem (gap ++ (part ++ tail)) = some (value, tail)

/-- A reader takes one part of a text for a member: its key, a colon, and its value. -/
def TakesMember (readItem : List Char → Option (Json × List Char)) (part : List Char)
    (member : String × Json) : Prop :=
  ∃ value, part = escaped member.1 ++ [':', ' '] ++ value ∧ Takes readItem value member.2

section Parts

variable {readItem : List Char → Option (Json × List Char)} {space margin rounds rest : List Char}
  {parts : List (List Char)} {value : Json} {items : List Json}
  {before members : List (String × Json)}

/-- An item that a bracket follows is the last one. -/
theorem readItems_last (read : readItem input = some (value, rest))
    (ends : skipGap rest = ']' :: tail) :
    readItems readItem rounds input = some ([value], tail) := by
  unfold readItems
  simp only [read, ends, Option.bind_eq_bind, Option.bind_some]

/-- Further items are read after a comma. -/
theorem readItems_next (round : Char) {further : List Char}
    (read : readItem input = some (value, rest)) (goesOn : skipGap rest = ',' :: further)
    (others : readItems readItem rounds further = some (items, tail)) :
    readItems readItem (round :: rounds) input = some (value :: items, tail) := by
  unfold readItems
  simp only [read, goesOn, others, Option.bind_eq_bind, Option.bind_some]

theorem readItems_eq (taken : List.Forall₂ (Takes readItem) parts items) (nonempty : parts ≠ [])
    (between : ∀ char ∈ space, isGap char = true) (after : ∀ char ∈ margin, isGap char = true)
    (blank : ∀ char ∈ gap, isGap char = true) (enough : parts.length ≤ rounds.length + 1) :
    readItems readItem rounds
        (gap ++ ((',' :: space).intercalate parts ++ (margin ++ ']' :: tail))) =
      some (items, tail) := by
  induction taken generalizing gap rounds with
  | nil => contradiction
  | @cons part item parts items first others induction =>
      cases parts with
      | nil =>
          cases others
          rw [List.intercalate_singleton]
          refine readItems_last (first gap _ blank (.gap_append after (.bracket tail))) ?_
          rw [skipGap_append after, skipGap_cons (by decide)]
      | cons second parts =>
          obtain - | ⟨round, rounds⟩ := rounds
          · simp at enough
          have read := induction (List.cons_ne_nil second parts) between
            (Nat.le_of_succ_le_succ enough)
          rw [List.intercalate_cons_cons, List.append_assoc, List.append_assoc, List.cons_append]
          exact readItems_next round (first gap _ blank (.comma _))
            (skipGap_cons (by decide) _) read

theorem setMember_of_notMem {key : String} (value : Json)
    (fresh : key ∉ members.map Prod.fst) :
    setMember key value members = members ++ [(key, value)] := by
  induction members with
  | nil => rfl
  | cons member members induction =>
      rw [List.map_cons, List.mem_cons, not_or] at fresh
      rw [setMember, if_neg (Ne.symm fresh.1), induction fresh.2, List.cons_append]

theorem TakesMember.readMember_eq {part : List Char} {member : String × Json}
    (taken : TakesMember readItem part member) (blank : ∀ char ∈ gap, isGap char = true)
    (closes : Closes rest) : readMember readItem (gap ++ (part ++ rest)) = some (member, rest) := by
  obtain ⟨value, rfl, taken⟩ := taken
  have split : escaped member.1 ++ [':', ' '] ++ value ++ rest =
      '"' :: (member.1.toList.flatMap escapedChar ++ '"' :: ':' :: ' ' :: (value ++ rest)) := by
    simp only [escaped, List.cons_append, List.append_assoc, List.nil_append]
  have read := taken [' '] rest (List.forall_mem_singleton.2 rfl) closes
  rw [List.singleton_append] at read
  rw [readMember, skipGap_append blank, split, skipGap_cons (by decide)]
  simp only [readContent_escaped, skipGap_cons (by decide : isGap ':' = false), read,
    Option.bind_eq_bind, Option.bind_some, String.ofList_toList]

/-- A member that a brace follows is the last one. -/
theorem readMembers_last {member : String × Json}
    (read : readMember readItem input = some (member, rest))
    (ends : skipGap rest = '\x7d' :: tail) :
    readMembers readItem rounds before input =
      some (setMember member.1 member.2 before, tail) := by
  unfold readMembers
  simp only [read, ends, Option.bind_eq_bind, Option.bind_some]

/-- Further members are read after a comma. -/
theorem readMembers_next (round : Char) {further : List Char} {member : String × Json}
    (read : readMember readItem input = some (member, rest))
    (goesOn : skipGap rest = ',' :: further) :
    readMembers readItem (round :: rounds) before input =
      readMembers readItem rounds (setMember member.1 member.2 before) further := by
  rw [readMembers.eq_def]
  simp only [read, goesOn, Option.bind_eq_bind, Option.bind_some]

theorem readMembers_eq (taken : List.Forall₂ (TakesMember readItem) parts members)
    (nonempty : parts ≠ []) (distinct : ((before ++ members).map Prod.fst).Nodup)
    (between : ∀ char ∈ space, isGap char = true) (after : ∀ char ∈ margin, isGap char = true)
    (blank : ∀ char ∈ gap, isGap char = true) (enough : parts.length ≤ rounds.length + 1) :
    readMembers readItem rounds before
        (gap ++ ((',' :: space).intercalate parts ++ (margin ++ '\x7d' :: tail))) =
      some (before ++ members, tail) := by
  induction taken generalizing gap rounds before with
  | nil => contradiction
  | @cons part member parts members first others induction =>
      obtain ⟨key, value⟩ := member
      have fresh : key ∉ before.map Prod.fst := by
        rw [List.map_append, List.map_cons, List.nodup_append] at distinct
        exact fun member => distinct.2.2 key member key List.mem_cons_self rfl
      cases parts with
      | nil =>
          cases others
          have read := first.readMember_eq blank (.gap_append after (.brace tail))
          rw [List.intercalate_singleton, readMembers_last read
            (by rw [skipGap_append after, skipGap_cons (by decide)]),
            setMember_of_notMem value fresh]
      | cons second parts =>
          obtain - | ⟨round, rounds⟩ := rounds
          · simp at enough
          have read := first.readMember_eq blank (.comma (space ++
            ((',' :: space).intercalate (second :: parts) ++ (margin ++ '\x7d' :: tail))))
          rw [List.intercalate_cons_cons, List.append_assoc, List.append_assoc, List.cons_append,
            readMembers_next round read (skipGap_cons (by decide) _),
            setMember_of_notMem value fresh, induction (List.cons_ne_nil second parts)
              (by simpa using distinct) between (Nat.le_of_succ_le_succ enough),
            List.append_assoc, List.singleton_append]

end Parts

/-! ## Layouts -/

theorem Layout.exists_separator (layout : Layout) (level : Nat) :
    ∃ space, layout.separator level = ',' :: space ∧ ∀ char ∈ space, isGap char = true := by
  cases layout with
  | line => exact ⟨[' '], rfl, List.forall_mem_singleton.2 rfl⟩
  | indented width =>
      refine ⟨_, rfl, ?_⟩
      rw [List.forall_mem_cons]
      exact ⟨by decide, fun char member => List.eq_of_mem_replicate member ▸ by decide⟩

theorem Layout.isGap_margin (layout : Layout) (level : Nat) :
    ∀ char ∈ layout.margin level, isGap char = true := by
  cases layout with
  | line => exact nofun
  | indented width =>
      rw [Layout.margin, List.forall_mem_cons]
      exact ⟨by decide, fun char member => List.eq_of_mem_replicate member ▸ by decide⟩

theorem length_le_of_mem_intercalate (separator : List Char) {part : List Char}
    {parts : List (List Char)} (member : part ∈ parts) :
    part.length ≤ (separator.intercalate parts).length := by
  induction parts with
  | nil => cases member
  | cons first parts induction =>
      cases parts with
      | nil =>
          rw [List.mem_singleton.1 member, List.intercalate_singleton]
      | cons second parts =>
          rw [List.intercalate_cons_cons, List.length_append, List.length_append]
          rcases List.mem_cons.1 member with rfl | later
          · omega
          · have := induction later
            omega

theorem length_le_length_intercalate (space : List Char) (parts : List (List Char)) :
    parts.length ≤ ((',' :: space).intercalate parts).length + 1 := by
  induction parts with
  | nil => simp
  | cons first parts induction =>
      cases parts with
      | nil => simp
      | cons second parts =>
          rw [List.intercalate_cons_cons, List.length_append, List.length_append,
            List.length_cons, List.length_cons (a := ',')]
          omega

theorem length_enclosed_pos (layout : Layout) (level : Nat) (opening closing : Char)
    (parts : List (List Char)) : 0 < (enclosed layout level opening closing parts).length := by
  unfold enclosed
  split
  · simp
  · simp

/-- Something between brackets is shorter than what the brackets enclose. -/
theorem length_lt_of_mem_enclosed {layout : Layout} {level : Nat} {opening closing round : Char}
    {part : List Char} {parts : List (List Char)} (member : part ∈ parts)
    (deep : (enclosed layout level opening closing parts).length ≤ (round :: depth).length) :
    part.length ≤ depth.length := by
  have inside := length_le_of_mem_intercalate (layout.separator (level + 1)) member
  rw [enclosed, if_neg (by simpa using List.ne_nil_of_mem member)] at deep
  simp only [List.cons_append, List.length_cons, List.length_append, List.length_nil] at deep
  omega

theorem renderItems_eq (layout : Layout) (level : Nat) (items : List Json) :
    renderItems layout level items = items.map (renderAt layout level) := by
  induction items with
  | nil => rfl
  | cons item items induction => rw [renderItems, induction, List.map_cons]

theorem renderMembers_eq (layout : Layout) (level : Nat) (members : List (String × Json)) :
    renderMembers layout level members =
      members.map fun member =>
        escaped member.1 ++ [':', ' '] ++ renderAt layout level member.2 := by
  induction members with
  | nil => rfl
  | cons member members induction => rw [renderMembers, induction, List.map_cons]

/-! ## Values -/

theorem takes_text (depth : List Char) (content : String) :
    Takes (readWithin depth) (escaped content) (text content) := by
  intro gap tail blank _
  rw [readWithin_gap_append blank, escaped, List.cons_append, List.cons_append, List.append_assoc,
    readWithin_quote, List.singleton_append, readContent_escaped, Option.map_some]
  dsimp only
  rw [String.ofList_toList]

theorem takes_integer (depth : List Char) (value : Int) :
    Takes (readWithin depth) (toString value).toList (integer value) := by
  intro gap tail blank closes
  rw [readWithin_gap_append blank, ← readNumber_toString value closes, Int.toString_eq_repr]
  cases value with
  | ofNat number =>
      obtain ⟨digit, digits, split, isDigit⟩ := exists_toDigits_eq_cons number
      rw [Int.repr, Nat.toList_repr, split]
      exact readWithin_digit isDigit depth _
  | negSucc number =>
      obtain ⟨digit, digits, split, isDigit⟩ := exists_toDigits_eq_cons (number + 1)
      rw [Int.repr, String.toList_append, Nat.toList_repr, split]
      exact readWithin_minus isDigit depth _

/-- Parts between brackets, with what stands after them. -/
theorem enclosed_append {parts : List (List Char)} (layout : Layout) (level : Nat)
    (opening closing : Char) (nonempty : parts ≠ []) (tail : List Char) :
    enclosed layout level opening closing parts ++ tail =
      opening :: (layout.margin (level + 1) ++ ((layout.separator (level + 1)).intercalate parts ++
        (layout.margin level ++ closing :: tail))) := by
  rw [enclosed, if_neg (by simpa using nonempty)]
  simp only [List.cons_append, List.append_assoc, List.nil_append]

theorem readWithin_bracket (round : Char) (depth rest : List Char) :
    readWithin (round :: depth) ('[' :: rest) =
      match skipGap rest with
      | ']' :: rest => some (array [], rest)
      | _ => (readItems (readWithin depth) rest rest).map fun (items, rest) =>
          (array items, rest) := by
  unfold readWithin
  rw [skipGap_cons (by decide)]
  rfl

theorem readWithin_brace (round : Char) (depth rest : List Char) :
    readWithin (round :: depth) ('\x7b' :: rest) =
      match skipGap rest with
      | '\x7d' :: rest => some (object [], rest)
      | _ => (readMembers (readWithin depth) rest [] rest).map fun (members, rest) =>
          (object members, rest) := by
  unfold readWithin
  rw [skipGap_cons (by decide)]
  rfl

/-- No item begins with the closing bracket. -/
theorem readWithin_of_readItems {rest : List Char} {items : List Json} (round : Char)
    (read : readItems (readWithin depth) rest rest = some (items, tail)) :
    readWithin (round :: depth) ('[' :: rest) = some (array items, tail) := by
  rw [readWithin_bracket]
  split
  · next closing =>
      have none := readWithin_skipGap depth rest
      rw [closing, readWithin_closing] at none
      rw [readItems.eq_def, ← none] at read
      cases read
  · rw [read]
    rfl

/-- No member begins with the closing brace. -/
theorem readWithin_of_readMembers {rest : List Char} {members : List (String × Json)}
    (round : Char) (read : readMembers (readWithin depth) rest [] rest = some (members, tail)) :
    readWithin (round :: depth) ('\x7b' :: rest) = some (object members, tail) := by
  rw [readWithin_brace]
  split
  · next closing =>
      rw [readMembers.eq_def, readMember, closing] at read
      cases read
  · rw [read]
    rfl

theorem takes_array {parts : List (List Char)} {items : List Json} (round : Char)
    (layout : Layout) (level : Nat)
    (taken : List.Forall₂ (Takes (readWithin depth)) parts items) :
    Takes (readWithin (round :: depth)) (enclosed layout level '[' ']' parts) (array items) := by
  intro gap tail blank _
  rw [readWithin_gap_append blank]
  by_cases empty : parts = []
  · subst empty
    cases taken
    exact readWithin_bracket round depth (']' :: tail)
  · obtain ⟨space, separator, between⟩ := layout.exists_separator (level + 1)
    rw [enclosed_append layout level '[' ']' empty tail, separator]
    refine readWithin_of_readItems round (readItems_eq taken empty between
      (layout.isGap_margin level) (layout.isGap_margin (level + 1)) ?_)
    have := length_le_length_intercalate space parts
    rw [List.length_append, List.length_append]
    omega

theorem takes_object {parts : List (List Char)} {members : List (String × Json)} (round : Char)
    (layout : Layout) (level : Nat) (distinct : (members.map Prod.fst).Nodup)
    (taken : List.Forall₂ (TakesMember (readWithin depth)) parts members) :
    Takes (readWithin (round :: depth)) (enclosed layout level '\x7b' '\x7d' parts)
      (object members) := by
  intro gap tail blank _
  rw [readWithin_gap_append blank]
  by_cases empty : parts = []
  · subst empty
    cases taken
    exact readWithin_brace round depth ('\x7d' :: tail)
  · obtain ⟨space, separator, between⟩ := layout.exists_separator (level + 1)
    rw [enclosed_append layout level '\x7b' '\x7d' empty tail, separator]
    refine readWithin_of_readMembers round (readMembers_eq taken empty distinct between
      (layout.isGap_margin level) (layout.isGap_margin (level + 1)) ?_)
    have := length_le_length_intercalate space parts
    rw [List.length_append, List.length_append]
    omega

/-- A written value is read up to its end, if the reader may go as deep as the text is long. -/
theorem takes_renderAt {value : Json} (plain : IsPlain value) (layout : Layout) (level : Nat)
    (deep : (renderAt layout level value).length ≤ depth.length) :
    Takes (readWithin depth) (renderAt layout level value) value := by
  induction plain generalizing level depth with
  | null =>
      intro gap tail blank _
      rw [readWithin_gap_append blank, renderAt]
      exact (readWithin_word depth tail).1
  | bool value =>
      intro gap tail blank _
      rw [readWithin_gap_append blank, renderAt]
      cases value with
      | true => exact (readWithin_word depth tail).2.1
      | false => exact (readWithin_word depth tail).2.2
  | integer value =>
      rw [renderAt]
      exact takes_integer depth value
  | text content =>
      rw [renderAt]
      exact takes_text depth content
  | array _ induction =>
      rw [renderAt, renderItems_eq] at deep ⊢
      obtain - | ⟨round, depth⟩ := depth
      · exact absurd (length_enclosed_pos _ _ _ _ _) (Nat.not_lt.2 deep)
      refine takes_array round layout level ?_
      rw [List.forall₂_map_left_iff, List.forall₂_same]
      intro item member
      refine induction item member (level + 1) (length_lt_of_mem_enclosed ?_ deep)
      exact List.mem_map_of_mem member
  | object distinct _ induction =>
      rw [renderAt, renderMembers_eq] at deep ⊢
      obtain - | ⟨round, depth⟩ := depth
      · exact absurd (length_enclosed_pos _ _ _ _ _) (Nat.not_lt.2 deep)
      refine takes_object round layout level distinct ?_
      rw [List.forall₂_map_left_iff, List.forall₂_same]
      intro member inside
      refine ⟨_, rfl, induction member inside (level + 1) ?_⟩
      have shorter := length_lt_of_mem_enclosed (List.mem_map_of_mem inside) deep
      rw [List.length_append] at shorter
      omega

/-- A value is read back from its text, in whichever way it is laid out. -/
theorem read?_render {value : Json} (plain : IsPlain value) (layout : Layout) :
    read? (value.render layout) = some value := by
  have taken := takes_renderAt plain layout 0 (Nat.le_refl _) [] [] nofun .nil
  rw [List.nil_append, List.append_nil] at taken
  rw [read?, render, String.toList_ofList, taken]
  rfl

end VersionCatalog.Json
