import VersionCatalog.Proofs.Document.Readers
import VersionCatalog.Proofs.Document.Written

/-!
# Reading keys and texts as they are written

Every reader gives back what was written for it, whatever follows, and stops right behind. Only an
empty text must not be followed by another double quote, since three of them open a long text.
-/

namespace VersionCatalog.Document

open Text

variable {later : List Char} {line : Nat}

/-! ## Layout -/

theorem isInlineBlank_char (blank : InlineBlank) : isInlineBlank blank.char = true := by
  cases blank <;> rfl

theorem skipInline_blanksText (blanks : List InlineBlank) (stops : Stops isInlineBlank later) :
    (⟨blanksText blanks ++ later, line⟩ : Cursor).skipInline = ⟨later, line⟩ := by
  have front : ∀ char ∈ blanksText blanks, isInlineBlank char = true := by
    intro char member
    obtain ⟨blank, _, rfl⟩ := List.mem_map.1 member
    exact isInlineBlank_char blank
  simp only [Cursor.skipInline, dropWhile_of_stops front stops]

/-- A comment is skipped with the line feed that ends it. -/
theorem skipFillerFrom_comment {words : List Char} (oneLine : '\n' ∉ words) :
    Cursor.skipFillerFrom true line (words ++ '\n' :: later) =
      Cursor.skipFillerFrom false (line + 1) later := by
  induction words with
  | nil => simp [Cursor.skipFillerFrom]
  | cons char words induction =>
      simp only [List.mem_cons, not_or] at oneLine
      have same : ¬char = '\n' := Ne.symm oneLine.1
      rw [List.cons_append, Cursor.skipFillerFrom, if_neg same, if_pos (by simp)]
      exact induction oneLine.2

theorem skipFillerFrom_fillerText (filler : List Filler) :
    Cursor.skipFillerFrom false line (fillerText filler ++ later) =
      Cursor.skipFillerFrom false (line + (fillerText filler).count '\n') later := by
  induction filler generalizing line with
  | nil => simp [fillerText]
  | cons first filler induction =>
      have whole : fillerText (first :: filler) = first.text ++ fillerText filler := rfl
      rw [whole, List.append_assoc, List.count_append, ← Nat.add_assoc, ← induction]
      cases first with
      | space => simp [Filler.text, Cursor.skipFillerFrom, isInlineBlank]
      | tab => simp [Filler.text, Cursor.skipFillerFrom, isInlineBlank]
      | carriageReturn => simp [Filler.text, Cursor.skipFillerFrom]
      | lineFeed => simp [Filler.text, Cursor.skipFillerFrom]
      | comment words oneLine =>
          have counted : ('#' :: words ++ ['\n']).count '\n' = 1 := by
            simp [List.count_eq_zero.2 oneLine]
          rw [Filler.text, counted]
          simp only [List.cons_append, List.append_assoc, List.nil_append]
          rw [Cursor.skipFillerFrom, if_neg (by decide), if_neg (by decide), if_pos rfl]
          exact skipFillerFrom_comment oneLine

theorem skipFiller_fillerText (filler : List Filler) (stops : Stops isFillerChar later) :
    (⟨fillerText filler ++ later, line⟩ : Cursor).skipFiller =
      ⟨later, line + (fillerText filler).count '\n'⟩ := by
  rw [Cursor.skipFiller, skipFillerFrom_fillerText]
  exact @Cursor.skipFiller_of_stops ⟨later, _⟩ stops

/-! ## Quoted texts -/

theorem readEscape_simple {marker char : Char} (simple : simpleEscape? marker = some char)
    (notFeed : (marker == '\n') = false) :
    readEscape ⟨marker :: later, line⟩ = .ok ([char], ⟨later, line⟩) := by
  simp only [readEscape, simple, advance_one_cons notFeed]

/-- An escaped character is read as the character. -/
theorem readBasicPart_escaped {opening : Nat} (char : Char) :
    readBasicPart opening ⟨escaped char ++ later, line⟩ =
      .ok (.more [char], ⟨later, line⟩) := by
  have escape : ∀ {marker : Char}, simpleEscape? marker = some char → (marker == '\n') = false →
      readBasicPart opening ⟨['\\', marker] ++ later, line⟩ =
        .ok (.more [char], ⟨later, line⟩) := by
    intro marker simple notFeed
    rw [readBasicPart_escape rfl, List.cons_append, advance_one_cons rfl,
      List.cons_append, readEscape_simple simple notFeed]
    rfl
  unfold escaped
  split
  · exact escape rfl rfl
  · exact escape rfl rfl
  · exact escape rfl rfl
  · next notEscape notQuote notFeed =>
      rw [readBasicPart_plain rfl notFeed notQuote notEscape, List.singleton_append,
        advance_one_cons (beq_eq_false_iff_ne.2 notFeed)]

theorem reads_escaped {opening : Nat} (content : List Char) :
    Reads (readBasicPart opening) ⟨content.flatMap escaped ++ '"' :: later, line⟩
      (content.map fun char => [char]) ⟨later, line⟩ := by
  induction content with
  | nil =>
      refine .stop ?_
      rw [readBasicPart_quote rfl, List.flatMap_nil, List.nil_append,
        advance_one_cons rfl]
  | cons char content induction =>
      rw [List.flatMap_cons, List.append_assoc]
      exact .more (readBasicPart_escaped char) induction

theorem readBasic_quoted (content : String) :
    readBasic ⟨quoted content ++ later, line⟩ = .ok (content.toList, ⟨later, line⟩) := by
  have whole : quoted content ++ later =
      '"' :: (content.toList.flatMap escaped ++ '"' :: later) := by
    simp [quoted]
  rw [whole, readBasic_eq_ok_iff, advance_one_cons rfl]
  refine ⟨_, reads_escaped content.toList, ?_⟩
  rw [← List.flatMap_def, List.flatMap_singleton']

/-- Three double quotes in a row do not begin a written text, since no quote in it is bare. -/
theorem readText_quoted (content : String) (unquoted : later.head? ≠ some '"') :
    readText ⟨quoted content ++ later, line⟩ = .ok (content, ⟨later, line⟩) := by
  have short : ¬['"', '"', '"'].isPrefixOf (quoted content ++ later) = true := by
    rw [List.isPrefixOf_iff_prefix]
    rintro ⟨rest, whole⟩
    cases opened : content.toList with
    | nil =>
        simp only [quoted, opened, List.flatMap_nil, List.nil_append, List.cons_append,
          List.cons.injEq, true_and] at whole
        simp [← whole] at unquoted
    | cons char chars =>
        simp only [quoted, opened, List.flatMap_cons, List.cons_append, List.nil_append,
          List.cons.injEq, true_and] at whole
        unfold escaped at whole
        split at whole
        · simp at whole
        · simp at whole
        · simp at whole
        · next notQuote _ =>
            simp only [List.cons_append, List.cons.injEq] at whole
            exact notQuote whole.1.symm
  have double : (quoted content ++ later).head? = some '"' := rfl
  have single : ¬['\'', '\'', '\''].isPrefixOf (quoted content ++ later) = true := by
    simp [quoted]
  rw [readText_eq]
  simp only [if_neg short, if_neg single, if_pos double, readBasic_quoted, Except.map,
    String.ofList_toList]

/-! ## Keys -/

theorem readKeyPart_quoted (content : String) :
    readKeyPart ⟨quoted content ++ later, line⟩ = .ok (content.toList, ⟨later, line⟩) := by
  rw [readKeyPart_double rfl, readBasic_quoted]

theorem stops_quoted_append {taken : Char → Bool} (content : String) (lacks : taken '"' = false) :
    Stops taken (quoted content ++ later) :=
  stops_cons lacks

theorem readDottedPart_text (dotted : DottedPart) :
    readDottedPart ⟨dotted.text ++ later, line⟩ =
      .ok (.more dotted.part.toList, ⟨later, line⟩) := by
  have whole : dotted.text ++ later =
      blanksText dotted.before ++ '.' :: (blanksText dotted.after ++
        (quoted dotted.part ++ later)) := by
    simp [DottedPart.text]
  have dot : Stops isInlineBlank
      ('.' :: (blanksText dotted.after ++ (quoted dotted.part ++ later))) := stops_cons rfl
  rw [whole, readDottedPart_dot (by rw [skipInline_blanksText _ dot]; rfl),
    skipInline_blanksText _ dot, advance_one_cons rfl,
    skipInline_blanksText _ (stops_quoted_append _ rfl), readKeyPart_quoted]
  rfl

/-- The blanks after a key are skipped with it. -/
theorem reads_dottedParts (others : List DottedPart) (blanks : List InlineBlank)
    (stops : Stops isInlineBlank later) (undotted : later.head? ≠ some '.') :
    Reads readDottedPart ⟨others.flatMap DottedPart.text ++ (blanksText blanks ++ later), line⟩
      (others.map fun dotted => dotted.part.toList) ⟨later, line⟩ := by
  induction others with
  | nil =>
      refine .stop ?_
      rw [List.flatMap_nil, List.nil_append, readDottedPart_stop, skipInline_blanksText _ stops]
      rw [skipInline_blanksText _ stops]
      exact undotted
  | cons first others induction =>
      rw [List.flatMap_cons, List.append_assoc]
      exact .more (readDottedPart_text first) induction

theorem ofList_intercalate (parts : List String) :
    String.ofList (['.'].intercalate (parts.map String.toList)) = dotted parts := by
  have same : ['.'].intercalate (parts.map String.toList) = (dotted parts).toList := by
    rw [dotted, String.toList_intercalate]
    rfl
  rw [same, String.ofList_toList]

theorem readKey_text (key : WrittenKey) (blanks : List InlineBlank)
    (stops : Stops isInlineBlank later) (undotted : later.head? ≠ some '.') :
    readKey ⟨key.text ++ (blanksText blanks ++ later), line⟩ =
      .ok (dotted key.parts, ⟨later, line⟩) := by
  have whole : key.text ++ (blanksText blanks ++ later) =
      quoted key.first ++ (key.others.flatMap DottedPart.text ++ (blanksText blanks ++ later)) := by
    rw [WrittenKey.text, List.append_assoc]
  rw [whole, readKey_eq_ok_iff]
  refine ⟨_, _, _, readKeyPart_quoted key.first,
    reads_dottedParts key.others blanks stops undotted, ?_⟩
  rw [← ofList_intercalate, WrittenKey.parts, List.map_cons, List.map_map]
  rfl

/-- The equals sign comes next after the key of an assignment, and then its value. -/
theorem readKey_target (target : Target) (stops : Stops isInlineBlank later) :
    ∃ middle, readKey ⟨target.text ++ later, line⟩ = .ok (dotted target.key.parts, middle) ∧
      middle.skipInline.rest.head? = some '=' ∧
      (middle.skipInline.advance 1).skipInline = ⟨later, line⟩ := by
  have whole : target.text ++ later = target.key.text ++
      (blanksText target.before ++ '=' :: (blanksText target.after ++ later)) := by
    simp [Target.text]
  have equals : Stops isInlineBlank ('=' :: (blanksText target.after ++ later)) := stops_cons rfl
  have unmoved : (⟨'=' :: (blanksText target.after ++ later), line⟩ : Cursor).skipInline =
      ⟨'=' :: (blanksText target.after ++ later), line⟩ :=
    skipInline_blanksText [] equals
  rw [whole]
  refine ⟨_, readKey_text target.key target.before equals (by simp), ?_, ?_⟩
  · rw [unmoved]
    rfl
  · rw [unmoved, advance_one_cons rfl, skipInline_blanksText _ stops]

end VersionCatalog.Document
