import VersionCatalog.Proofs.Document.CopiedLines
import VersionCatalog.Proofs.Document.Plain

/-!
# Long texts as they are written

Between three double quotes, line feeds stand for themselves, and only backslashes and double quotes
have to be escaped. The end of such a text is the first three quotes in a row, which are searched
for before any escape is read. An escaped quote at the end of the text is therefore taken for the
first of them: `ofText_longAssignment` says that this is the only way to read anything but what was
written.
-/

namespace VersionCatalog.Document

open Text

/-- A character between three double quotes. -/
def longEscaped : Char → List Char
  | '\\' => ['\\', '\\']
  | '"' => ['\\', '"']
  | char => [char]

/-- Three double quotes. -/
def longQuote : List Char :=
  ['"', '"', '"']

/-- A text between three double quotes. -/
def longQuoted (content : List Char) : List Char :=
  longQuote ++ content.flatMap longEscaped ++ longQuote

variable {content raw rest later : List Char} {line : Nat}

/-! ## The end of a long text -/

/-- The first three quotes in a row come later than a quote that no other follows. -/
theorem splitAtThree?_cons {char : Char} (apart : char = '"' → rest.head? ≠ some '"') :
    splitAtThree? '"' (char :: rest) =
      (splitAtThree? '"' rest).map fun (before, after) => (char :: before, after) := by
  rw [splitAtThree?, if_neg]
  rw [List.isPrefixOf_iff_prefix]
  rintro ⟨others, whole⟩
  simp only [List.cons_append, List.nil_append, List.cons.injEq] at whole
  exact apart whole.1.symm (by simp [← whole.2])

theorem splitAtThree?_longEscaped {char : Char} (apart : char = '"' → rest.head? ≠ some '"') :
    splitAtThree? '"' (longEscaped char ++ rest) =
      (splitAtThree? '"' rest).map fun (before, after) => (longEscaped char ++ before, after) := by
  have pair : ∀ {second : Char}, (second = '"' → rest.head? ≠ some '"') →
      splitAtThree? '"' (['\\', second] ++ rest) =
        (splitAtThree? '"' rest).map fun (before, after) => (['\\', second] ++ before, after) := by
    intro second apart
    have notQuote : '\\' ≠ '"' := by simp
    rw [List.cons_append, splitAtThree?_cons fun same => (notQuote same).elim,
      List.singleton_append, splitAtThree?_cons apart, Option.map_map]
    rfl
  unfold longEscaped
  split
  · exact pair fun same => by simp at same
  · exact pair fun _ => apart rfl
  · exact splitAtThree?_cons apart

/-- An escaped text does not begin with a quote. -/
theorem head?_flatMap_longEscaped (written : content ≠ []) :
    (content.flatMap longEscaped ++ rest).head? ≠ some '"' := by
  obtain ⟨char, others, rfl⟩ := List.exists_cons_of_ne_nil written
  rw [List.flatMap_cons]
  unfold longEscaped
  split
  · simp
  · simp
  · next notQuote => simpa using notQuote

/-- The first three quotes in a row come later than an escaped text, unless a quote at its end goes
on with others. -/
theorem splitAtThree?_flatMap_longEscaped
    (apart : content.getLast? = some '"' → rest.head? ≠ some '"') :
    splitAtThree? '"' (content.flatMap longEscaped ++ rest) =
      (splitAtThree? '"' rest).map fun (before, after) =>
        (content.flatMap longEscaped ++ before, after) := by
  induction content with
  | nil => simp
  | cons char content induction =>
      have first : char = '"' → (content.flatMap longEscaped ++ rest).head? ≠ some '"' := by
        rintro rfl
        -- The next escaped character follows a quote, or what comes after the text.
        cases content with
        | nil => exact apart rfl
        | cons second content => exact head?_flatMap_longEscaped (by simp)
      have others : content.getLast? = some '"' → rest.head? ≠ some '"' := by
        intro last
        exact apart (by rw [List.getLast?_cons, last, Option.getD_some])
      rw [List.flatMap_cons, List.append_assoc, splitAtThree?_longEscaped first, induction others,
        Option.map_map]
      simp only [Function.comp_def, List.append_assoc]

theorem splitAtThree?_longQuote : splitAtThree? '"' (longQuote ++ later) = some ([], later) := by
  simp [longQuote, splitAtThree?]

/-! ## Reading a long text -/

theorem readEscapedPart_longEscaped (char : Char) :
    readEscapedPart ⟨longEscaped char ++ later, line⟩ =
      .ok (.more [char], ⟨later, line + [char].count '\n'⟩) := by
  have pair : ∀ {marker : Char}, simpleEscape? marker = some char → (marker == '\n') = false →
      (char == '\n') = false →
      readEscapedPart ⟨['\\', marker] ++ later, line⟩ =
        .ok (.more [char], ⟨later, line + [char].count '\n'⟩) := by
    intro marker simple notFeed other
    rw [readEscapedPart_escape rfl, List.cons_append, advance_one_cons rfl, List.singleton_append,
      readEscape_simple simple notFeed, List.count_singleton, other]
    rfl
  unfold longEscaped
  split
  · exact pair rfl rfl rfl
  · exact pair rfl rfl rfl
  · next notEscape _ =>
      rw [readEscapedPart_plain rfl notEscape]
      rfl

theorem reads_longEscaped {parts : List (List Char)} {after : Cursor} (content : List Char)
    (others : Reads readEscapedPart ⟨rest, line + content.count '\n'⟩ parts after) :
    Reads readEscapedPart ⟨content.flatMap longEscaped ++ rest, line⟩
      ((content.map fun char => [char]) ++ parts) after := by
  induction content generalizing line with
  | nil => exact others
  | cons char content induction =>
      have counted : line + (char :: content).count '\n' =
          line + [char].count '\n' + content.count '\n' := by
        rw [← List.singleton_append, List.count_append, Nat.add_assoc]
      rw [counted] at others
      rw [List.flatMap_cons, List.append_assoc]
      exact .more (readEscapedPart_longEscaped char) (induction others)

/-- Escapes are undone, whatever follows them. -/
theorem unescape_flatMap_longEscaped {parts : List (List Char)} {after : Cursor}
    (others : Reads readEscapedPart ⟨rest, 1 + content.count '\n'⟩ parts after) :
    unescape (content.flatMap longEscaped ++ rest) = .ok (content ++ parts.flatten) := by
  refine unescape_eq_ok_iff.2 ⟨_, after, reads_longEscaped content others, ?_⟩
  rw [List.flatten_append, ← List.flatMap_def, List.flatMap_singleton']

/-- A long text ends where the first three quotes in a row are found. -/
theorem readLong_closed (found : splitAtThree? '"' (raw ++ longQuote ++ later) = some (raw, later))
    (unescaped : unescape raw = .ok content) :
    readLong '"' ⟨longQuote ++ (raw ++ longQuote ++ later), line⟩ =
      .ok (strip content, ⟨later, line + raw.count '\n'⟩) := by
  have opened : (⟨longQuote ++ (raw ++ longQuote ++ later), line⟩ : Cursor).advance 3 =
      ⟨raw ++ longQuote ++ later, line⟩ := rfl
  have closed : (⟨raw ++ longQuote ++ later, line⟩ : Cursor).advance (raw.length + 3) =
      ⟨later, line + raw.count '\n'⟩ := by
    have length : raw.length + 3 = (raw ++ longQuote).length := by simp [longQuote]
    rw [Cursor.advance, length, List.drop_left, List.take_left, List.count_append]
    rfl
  rw [readLong_double (by rw [opened]; exact found), opened, closed, unescaped]
  rfl

theorem count_flatMap_longEscaped (content : List Char) :
    (content.flatMap longEscaped).count '\n' = content.count '\n' := by
  have one : ∀ char, (longEscaped char).count '\n' = [char].count '\n' := by
    intro char
    unfold longEscaped
    split <;> rfl
  induction content with
  | nil => rfl
  | cons char content induction =>
      have whole : char :: content = [char] ++ content := rfl
      rw [List.flatMap_cons, List.count_append, one, induction, whole, List.count_append]

/-- An escaped text that does not end with a quote is read as it was written. -/
theorem readLong_longQuoted (apart : content.getLast? ≠ some '"') :
    readLong '"' ⟨longQuoted content ++ later, line⟩ =
      .ok (strip content, ⟨later, line + content.count '\n'⟩) := by
  have found : splitAtThree? '"' (content.flatMap longEscaped ++ longQuote ++ later) =
      some (content.flatMap longEscaped, later) := by
    rw [List.append_assoc, splitAtThree?_flatMap_longEscaped fun last => (apart last).elim,
      splitAtThree?_longQuote]
    simp
  have unescaped : unescape (content.flatMap longEscaped) = .ok content := by
    have nothing := @unescape_flatMap_longEscaped content [] [] _ (.stop rfl)
    simpa using nothing
  have read := @readLong_closed content _ later line found unescaped
  rw [count_flatMap_longEscaped] at read
  simpa [longQuoted] using read

/-- The escaped quote at the end of a text is taken for the first of three, and its backslash for
the end of the text. The third of the closing quotes is left. -/
theorem readLong_longQuoted_quote :
    readLong '"' ⟨longQuoted (content ++ ['"']) ++ later, line⟩ =
      .ok (strip (content ++ ['\\']), ⟨'"' :: later, line + content.count '\n'⟩) := by
  have early : splitAtThree? '"' ('\\' :: (longQuote ++ '"' :: later)) =
      some (['\\'], '"' :: later) := by
    simp [longQuote, splitAtThree?]
  -- The escaped quote and the first two closing ones are three in a row.
  have found : splitAtThree? '"'
      (content.flatMap longEscaped ++ ['\\'] ++ longQuote ++ '"' :: later) =
        some (content.flatMap longEscaped ++ ['\\'], '"' :: later) := by
    rw [List.append_assoc, List.append_assoc, List.singleton_append,
      splitAtThree?_flatMap_longEscaped fun _ => by simp, early]
    rfl
  have unescaped : unescape (content.flatMap longEscaped ++ ['\\']) = .ok (content ++ ['\\']) :=
    @unescape_flatMap_longEscaped content ['\\'] [['\\']] _ (.more rfl (.stop rfl))
  have read := @readLong_closed _ _ _ line found unescaped
  rw [List.count_append, count_flatMap_longEscaped] at read
  simpa [longQuoted, longQuote, longEscaped] using read

/-! ## Documents of one long text -/

/-- The line that assigns a long text to a word. -/
def longAssignment (key : Word) (content : String) : String :=
  String.ofList (key.text.toList ++ ' ' :: '=' :: ' ' :: longQuoted content.toList)

variable {key : Word}

theorem toList_longAssignment (key : Word) (content : String) :
    (longAssignment key content).toList =
      key.text.toList ++ ' ' :: '=' :: ' ' :: longQuoted content.toList :=
  String.toList_ofList

section Read

variable {content : String}

theorem head?_longAssignment_ne {char : Char} (other : isWord char = false) :
    (longAssignment key content).toList.head? ≠ some char := by
  rw [toList_longAssignment]
  exact key.head?_append_ne other _

theorem stops_longAssignment : Stops isFillerChar (longAssignment key content).toList := by
  intro char first
  rw [toList_longAssignment] at first
  exact isFillerChar_of_isWord (key.isWord_of_head? first)

end Read

section Values

variable [CallStack]

/-- Three quotes open a text that is one value. -/
theorem readValue_longQuoted {value : List Char} {after : Cursor}
    (read : readLong '"' ⟨longQuoted content, line⟩ = .ok (value, after)) :
    readValue ⟨longQuoted content, line⟩ = .ok (.text (String.ofList value), after) := by
  have opens : ['"', '"', '"'].isPrefixOf (longQuoted content) = true := by
    simp [longQuoted, longQuote]
  rw [readValue, readValueWithin_flat (by simp [longQuoted, longQuote]), readFlat_eq,
    if_neg (by simp [longQuoted, longQuote]), readText_eq, if_pos opens, read]
  rfl

/-- An assignment is read as long as nothing follows its value. -/
theorem readAssignment_longQuoted {value : List Char} {after : Cursor}
    (read : readLong '"' ⟨longQuoted content, line⟩ = .ok (value, after)) :
    readAssignment ⟨key.text.toList ++ ' ' :: '=' :: ' ' :: longQuoted content, line⟩ =
      (after.finishLine (.value key.text)).map fun after =>
        ((key.text, .text (String.ofList value)), after) := by
  have assigned : (⟨'=' :: ' ' :: longQuoted content, line⟩ : Cursor).skipInline =
      ⟨'=' :: ' ' :: longQuoted content, line⟩ := rfl
  have skipped : ((⟨'=' :: ' ' :: longQuoted content, line⟩ : Cursor).advance 1).skipInline =
      ⟨longQuoted content, line⟩ := rfl
  rw [readAssignment_eq, key.readKey_append]
  simp only [Except.bind, assigned, skipped, List.head?_cons, if_true, readValue_longQuoted read]

end Values

section Documents

variable [CallStack] {content : String}

theorem reads_longAssignment (apart : content.toList.getLast? ≠ some '"') :
    Reads readLine (Cursor.start (longAssignment key content).toList)
      [.assignment key.text (.text (String.ofList (strip content.toList))) 1]
      ⟨[], 1 + content.toList.count '\n'⟩ := by
  have read := @readLong_longQuoted content.toList [] 1 apart
  rw [List.append_nil] at read
  have assigned := @readAssignment_longQuoted _ _ key _ _ _ read
  rw [← toList_longAssignment] at assigned
  exact reads_assignment stops_longAssignment (by simp [toList_longAssignment])
    (head?_longAssignment_ne (by decide +kernel)) assigned

/-- The quote that is left over follows the value. -/
theorem readLine_longAssignment_quote (last : content.toList.getLast? = some '"') :
    readLine (Cursor.start (longAssignment key content).toList) =
      .error ⟨.trailingText (.value key.text), 1 + content.toList.count '\n'⟩ := by
  obtain ⟨front, whole⟩ := List.getLast?_eq_some_iff.1 last
  have read := @readLong_longQuoted_quote front [] 1
  rw [List.append_nil, ← whole] at read
  have failed := @readAssignment_longQuoted _ _ key _ _ _ read
  rw [← toList_longAssignment] at failed
  have unmoved : (Cursor.start (longAssignment key content).toList).skipFiller =
      ⟨(longAssignment key content).toList, 1⟩ :=
    Cursor.skipFiller_of_stops stops_longAssignment
  rw [readLine_eq, unmoved, if_neg (by simp [toList_longAssignment]),
    if_neg (head?_longAssignment_ne (by decide +kernel)), failed, whole, List.count_append]
  rfl

/-- A text between three quotes is read as it was written, if it does not end with a quote. If it
does, its end is missed. -/
theorem ofText_longAssignment (stripped : strip content.toList = content.toList) :
    ofText (longAssignment key content) =
      if content.toList.getLast? = some '"' then
        .error ⟨.trailingText (.value key.text), 1 + content.toList.count '\n'⟩
      else .ok ⟨[], [⟨"", key.text, .text content, 1⟩]⟩ := by
  have unmarked : dropMark (longAssignment key content).toList =
      (longAssignment key content).toList :=
    dropMark_of_unmarked (head?_longAssignment_ne (by decide +kernel))
  split
  · next last =>
      rw [ofText_eq, unmarked, readLines, many_eq progressive_readLine,
        readLine_longAssignment_quote last]
      rfl
  · next apart =>
      have lines := @reads_longAssignment key _ content apart
      rw [stripped, String.ofList_toList, ← unmarked] at lines
      exact ofText_eq_ok_iff.2 ⟨_, _, lines, List.nodup_nil, rfl⟩

end Documents

open scoped CallStack

/-- A key of one letter. -/
def shortKey : Word where
  text := "k"
  nonempty := by simp
  written := by
    have letter : isWord 'k' = true := by decide +kernel
    simpa using letter

/-- A text of two lines with quotes and backslashes, three of the quotes in a row. -/
theorem ofText_longAssignment_mixed :
    ofText (longAssignment shortKey "\"\"\"\n\\\"\\") =
      .ok ⟨[], [⟨"", "k", .text "\"\"\"\n\\\"\\", 1⟩]⟩ :=
  @ofText_longAssignment shortKey _ "\"\"\"\n\\\"\\" (by decide)

/-- A quote alone is not read as it was written. -/
theorem ofText_longAssignment_quote_alone :
    strip "\"".toList = "\"".toList ∧
      longAssignment shortKey "\"" = "k = \"\"\"\\\"\"\"\"" ∧
      ofText "k = \"\"\"\\\"\"\"\"" = .error ⟨.trailingText (.value "k"), 1⟩ :=
  ⟨by decide, by decide, rfl⟩

end VersionCatalog.Document
