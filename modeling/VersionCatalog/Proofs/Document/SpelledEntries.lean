import VersionCatalog.Proofs.Document.Join
import VersionCatalog.Proofs.Document.RoundTrip
import VersionCatalog.Proofs.Document.SpelledValues

/-!
# Entries however they are spelled

An entry makes one line, whatever its layout and however its key and its texts are spelled. It may
stand in a document, with other lines before it and after it; these are documents themselves.
-/

namespace VersionCatalog.Document

open Text

variable {line : Nat}

/-- What may stand after a value on its line. -/
inductive Trailer where
  | blank (blanks : List InlineBlank)
  | carriageReturn (blanks : List InlineBlank)
  | comment (blanks : List InlineBlank) (words : List Char) (oneLine : '\n' ∉ words)

def Trailer.characters : Trailer → List Char
  | blank blanks => blanksText blanks
  | carriageReturn blanks => blanksText blanks ++ ['\r']
  | comment blanks words _ => blanksText blanks ++ '#' :: words

/-- An assignment as it is laid out and spelled, with the filler before it and the rest of its
line. -/
structure SpelledEntry where
  leading : List Filler
  target : SpelledTarget
  value : SpelledValue
  trailer : Trailer

namespace SpelledEntry

def characters (entry : SpelledEntry) : List Char :=
  fillerText entry.leading ++
    (entry.target.characters ++ (entry.value.characters ++ entry.trailer.characters))

/-- The entry after a line break, which is filler before it. -/
def below (entry : SpelledEntry) : SpelledEntry :=
  { entry with leading := .lineFeed :: entry.leading }

theorem ofList_characters_below (entry : SpelledEntry) :
    String.ofList entry.below.characters = "\n" ++ String.ofList entry.characters := by
  rw [← String.toList_inj]
  simp [characters, below, fillerText, Filler.text]

end SpelledEntry

/-- The end of a line depends on what comes after the blanks. -/
theorem finishLine_congr {left right : Cursor} (same : left.skipInline = right.skipInline)
    (content : LineContent) :
    left.finishLine content = right.finishLine content := by
  simp only [Cursor.finishLine, same]

namespace Trailer

variable (trailer : Trailer)

theorem closesText_characters : ClosesText trailer.characters := by
  cases trailer with
  | blank blanks =>
      rw [characters, ← List.append_nil (blanksText blanks)]
      exact closesText_blanksText_append blanks stops_nil
  | carriageReturn blanks => exact closesText_blanksText_append blanks (closesText_cons rfl)
  | comment blanks words oneLine => exact closesText_blanksText_append blanks (closesText_cons rfl)

theorem finishLine_characters (content : LineContent) :
    (⟨trailer.characters, line⟩ : Cursor).finishLine content = .ok ⟨[], line⟩ := by
  cases trailer with
  | blank blanks =>
      have passed := @skipInline_blanksText [] line blanks stops_nil
      rw [List.append_nil] at passed
      rw [Cursor.finishLine, characters, passed]
      rfl
  | carriageReturn blanks =>
      rw [Cursor.finishLine, characters, skipInline_blanksText blanks (stops_cons rfl)]
      rfl
  | comment blanks words oneLine =>
      have inside : ∀ char ∈ words, (char != '\n') = true := by
        intro char member
        rw [bne_iff_ne]
        rintro rfl
        exact oneLine member
      have passed := @dropWhile_of_stops _ _ [] inside stops_nil
      rw [List.append_nil] at passed
      rw [Cursor.finishLine, characters, skipInline_blanksText blanks (stops_cons rfl)]
      simp only [Cursor.skipComment, passed, Cursor.skipReturn]

end Trailer

section

variable [CallStack]

/-- An entry makes one line. -/
theorem SpelledEntry.reads {entry : SpelledEntry}
    (shallow : entry.value.node.nesting ≤ CallStack.tableDepth) :
    ∃ final, Reads readLine (Cursor.start entry.characters)
      [.assignment entry.target.key.name entry.value.node
        (1 + (fillerText entry.leading).count '\n')] final := by
  have closes := entry.trailer.closesText_characters
  obtain ⟨middle, named, assigned, valued⟩ := @SpelledTarget.readKey_append _
    (1 + (fillerText entry.leading).count '\n') entry.target (by omega)
    (@SpelledValue.stops_append entry.trailer.characters entry.value)
  obtain ⟨stopped, found, position⟩ := @SpelledValue.readValueWithin_append _ _
    (1 + (fillerText entry.leading).count '\n' + entry.target.characters.count '\n') _ entry.value
    shallow (by omega) closes
  rw [← valued] at found
  have finished := finishLine_congr position (.value entry.target.key.name)
  rw [entry.trailer.finishLine_characters] at finished
  have read := readAssignment_eq_ok_iff.2 ⟨middle, stopped, named, assigned, found, finished⟩
  have alone := reads_assignment entry.target.stops_append
    (by simp [SpelledTarget.characters])
    (entry.target.head?_append (by decide) (by decide) rfl) read
  refine ⟨_, alone.congr_filler ?_⟩
  rw [Cursor.start, SpelledEntry.characters, skipFiller_fillerText _ entry.target.stops_append]
  exact (Cursor.skipFiller_of_stops entry.target.stops_append).symm

/-- An entry alone is a document without sections. -/
theorem SpelledEntry.ofText_characters {entry : SpelledEntry}
    (shallow : entry.value.node.nesting ≤ CallStack.tableDepth) :
    ofText (String.ofList entry.characters) =
      .ok ⟨[], [⟨"", entry.target.key.name, entry.value.node.flatten,
        1 + (fillerText entry.leading).count '\n'⟩]⟩ := by
  obtain ⟨final, reads⟩ := entry.reads shallow
  have unmarked : entry.characters.head? ≠ some '\ufeff' :=
    head?_fillerText_append _ (by decide)
      (entry.target.head?_append (by decide) (by decide) (by decide +kernel))
  rw [← dropMark_of_unmarked unmarked, ← @String.toList_ofList entry.characters] at reads
  exact ofText_eq_ok_iff.2 ⟨_, final, reads, List.nodup_nil, rfl⟩

/-! ## Entries in a document -/

/-- An entry in a section of a text. What stands before it and what stands after it are documents
that declare no section in common. -/
structure PlacedEntry (sectionName : String) where
  before : String
  entry : SpelledEntry
  rest : String
  front : Document
  back : Document
  frontRead : ofText before = .ok front
  backRead : ofText rest = .ok back
  breaks : BreaksLine rest.toList
  apart : ∀ name ∈ back.sections, name ∉ front.sections
  inside : front.sections.getLast? = some sectionName

namespace PlacedEntry

variable {sectionName : String} (placed : PlacedEntry sectionName)

/-- The text up to the end of the entry. -/
def opening : String :=
  placed.before ++ "\n" ++ String.ofList placed.entry.characters

def text : String :=
  placed.opening ++ placed.rest

/-- The entry as it is read where it stands. -/
def declared : Entry :=
  ⟨sectionName, placed.entry.target.key.name, placed.entry.value.node.flatten,
    1 + (placed.before.toList.count '\n' + 1 + (fillerText placed.entry.leading).count '\n')⟩

/-- The document with the entry in its place. -/
def document : Document :=
  ⟨placed.front.sections ++ placed.back.sections,
    placed.front.entries ++ placed.declared ::
      placed.back.entries.map
        (moveEntry placed.front.sections (placed.opening.toList.count '\n'))⟩

theorem ofText_opening (shallow : placed.entry.value.node.nesting ≤ CallStack.tableDepth) :
    ofText placed.opening =
      .ok ⟨placed.front.sections, placed.front.entries ++ [placed.declared]⟩ := by
  have below := @SpelledEntry.ofText_characters _ placed.entry.below shallow
  rw [placed.entry.ofList_characters_below] at below
  have breaks : BreaksLine ("\n" ++ String.ofList placed.entry.characters).toList := by
    intro char first
    simpa using first.symm
  rw [opening, String.append_assoc, ofText_append placed.frontRead below breaks (by simp)]
  simp only [join, moveEntry, List.map_cons, List.map_nil, List.append_nil, placed.inside,
    declared, if_true, Option.getD_some]
  have counted : 1 + (fillerText placed.entry.below.leading).count '\n' +
      placed.before.toList.count '\n' =
        1 + (placed.before.toList.count '\n' + 1 +
          (fillerText placed.entry.leading).count '\n') := by
    simp [SpelledEntry.below, fillerText, Filler.text]
    omega
  rw [counted]
  rfl

theorem ofText_placed (shallow : placed.entry.value.node.nesting ≤ CallStack.tableDepth) :
    ofText placed.text = .ok placed.document := by
  rw [text,
    ofText_append (placed.ofText_opening shallow) placed.backRead placed.breaks placed.apart]
  simp only [join, document, List.append_assoc, List.singleton_append]

end PlacedEntry

end

end VersionCatalog.Document
