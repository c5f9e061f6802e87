import VersionCatalog.Proofs.Catalog.Sections
import VersionCatalog.Proofs.Document.CopiedLines
import VersionCatalog.Proofs.Document.Structure

/-!
# Texts made of blocks

A block is a text of one section. Blocks of different sections make one document when they are
joined by line breaks: it has their sections in order and, but for lines, the entries of each block.
A phrase on one line stands in the joined text exactly when it stands in a block.
-/

namespace VersionCatalog

open Document Text

/-! ## Elements in another order -/

/-- Elements with different keys are found by their keys in whatever order they come. -/
theorem filter_eq_of_perm {α κ : Type} [DecidableEq κ] {key : α → κ} {left right : List α}
    (perm : left.Perm right) (distinct : (left.map key).Nodup) (wanted : κ) :
    left.filter (fun element => key element = wanted) =
      right.filter fun element => key element = wanted := by
  induction perm with
  | nil => rfl
  | cons element perm induction =>
      rw [List.filter_cons, List.filter_cons, induction (List.nodup_cons.1 distinct).2]
  | swap first second elements =>
      have apart : key second ≠ key first := by
        intro same
        simp [same] at distinct
      by_cases here : key first = wanted
      · have other : key second ≠ wanted := fun same => apart (same.trans here.symm)
        simp [here, other]
      · simp [List.filter_cons, here]
  | trans first second firstInduction secondInduction =>
      rw [firstInduction distinct, secondInduction ((first.map key).nodup_iff.1 distinct)]

/-! ## Phrases across line breaks -/

theorem isPrefixOf_append_feed {phrase : List Char} (oneLine : '\n' ∉ phrase)
    (front back : List Char) :
    phrase.isPrefixOf (front ++ '\n' :: back) = phrase.isPrefixOf front := by
  induction phrase generalizing front with
  | nil => simp
  | cons char phrase induction =>
      simp only [List.mem_cons, not_or] at oneLine
      cases front with
      | nil => simp [List.isPrefixOf, Ne.symm oneLine.1]
      | cons first front =>
          rw [List.cons_append, List.isPrefixOf_cons_cons, List.isPrefixOf_cons_cons,
            induction oneLine.2]

/-- A phrase on one line does not stand across a line break. -/
theorem mentions_append_feed {phrase : List Char} (written : phrase ≠ [])
    (oneLine : '\n' ∉ phrase) (front back : List Char) :
    mentions phrase (front ++ '\n' :: back) = (mentions phrase front || mentions phrase back) := by
  induction front with
  | nil =>
      have unopened := isPrefixOf_append_feed oneLine [] back
      rw [List.nil_append] at unopened ⊢
      simp only [mentions, unopened]
      cases phrase with
      | nil => contradiction
      | cons char phrase => rfl
  | cons char front induction =>
      have opened := isPrefixOf_append_feed oneLine (char :: front) back
      rw [List.cons_append] at opened ⊢
      rw [mentions, mentions, induction, opened, Bool.or_assoc]

/-! ## Blocks -/

variable [CallStack]

/-- A text that declares one section, to which all of its entries belong. -/
structure Block where
  text : String
  /-- The name of the section. -/
  name : String
  entries : List Entry
  unmarked : text.toList.head? ≠ some '\ufeff'
  read : ofText text = .ok ⟨[name], entries⟩
  /-- No entry comes before the header. -/
  owned : ∀ entry ∈ entries, entry.sectionName ≠ ""

/-- Blocks one after the other, with a line break between. -/
def joinBlocks (blocks : List Block) : String :=
  "\n".intercalate (blocks.map Block.text)

/-! ## The lines of joined blocks -/

/-- The lines of a block make the same entries wherever they stand, since a header comes first. -/
theorem Block.exists_reads (block : Block) :
    ∃ lines after, Reads readLine (Cursor.start (dropMark block.text.toList)) lines after ∧
      headerNames lines = [block.name] ∧ ∀ current, entriesIn current lines = block.entries := by
  obtain ⟨lines, after, reads, _, same⟩ := ofText_eq_ok_iff.1 block.read
  simp only [Document.mk.injEq] at same
  refine ⟨lines, after, reads, same.1.symm, ?_⟩
  intro current
  rw [same.2]
  cases lines with
  | nil => rfl
  | cons line lines =>
      cases line with
      | header name line => rfl
      | assignment key value line =>
          refine (block.owned ⟨"", key, value.flatten, line⟩ ?_ rfl).elim
          rw [same.2]
          exact List.mem_cons_self

@[simp]
theorem joinBlocks_nil : joinBlocks [] = "" := rfl

@[simp]
theorem joinBlocks_singleton (block : Block) : joinBlocks [block] = block.text :=
  String.intercalate_singleton

theorem joinBlocks_cons_cons (block next : Block) (blocks : List Block) :
    joinBlocks (block :: next :: blocks) = block.text ++ "\n" ++ joinBlocks (next :: blocks) :=
  String.intercalate_cons_cons

theorem toList_joinBlocks_cons (block next : Block) (blocks : List Block) :
    (joinBlocks (block :: next :: blocks)).toList =
      block.text.toList ++ '\n' :: (joinBlocks (next :: blocks)).toList := by
  simp [joinBlocks_cons_cons]

theorem dropMark_joinBlocks (blocks : List Block) :
    dropMark (joinBlocks blocks).toList = (joinBlocks blocks).toList := by
  match blocks with
  | [] => rfl
  | [block] => rw [joinBlocks_singleton, dropMark_of_unmarked block.unmarked]
  | block :: next :: blocks =>
      rw [toList_joinBlocks_cons, dropMark_append, dropMark_of_unmarked block.unmarked]

/-- The lines of joined blocks are those of the blocks, further down. -/
theorem exists_reads_joinBlocks (blocks : List Block) :
    ∃ lines after, Reads readLine (Cursor.start (joinBlocks blocks).toList) lines after ∧
      headerNames lines = blocks.map Block.name ∧
      ∀ current, (entriesIn current lines).map Entry.withoutLine =
        blocks.flatMap fun block => block.entries.map Entry.withoutLine := by
  -- Every block begins with a header, so that the section which is open before does not matter.
  induction blocks with
  | nil => exact ⟨[], _, .stop (readLine_end rfl), rfl, fun _ => rfl⟩
  | cons block blocks induction =>
      obtain ⟨front, after, frontReads, name, made⟩ := block.exists_reads
      cases blocks with
      | nil =>
          rw [dropMark_of_unmarked block.unmarked] at frontReads
          refine ⟨front, after, ?_, name, ?_⟩
          · rwa [joinBlocks_singleton]
          · simp [made]
      | cons next blocks =>
          obtain ⟨back, last, backReads, names, others⟩ := induction
          obtain ⟨final, reads⟩ := reads_join frontReads backReads
          rw [← joinBlocks_cons_cons, dropMark_joinBlocks] at reads
          refine ⟨_, final, reads, ?_, ?_⟩
          · rw [headerNames_append, headerNames_map_moved, name, names]
            rfl
          · intro current
            rw [entriesIn_append, made, entriesIn_moved, List.map_append, List.map_map,
              List.flatMap_cons, ← others]
            rfl

/-- Blocks of different sections make one document. -/
theorem ofText_joinBlocks {blocks : List Block} (distinct : (blocks.map Block.name).Nodup) :
    ∃ document, ofText (joinBlocks blocks) = .ok document ∧
      document.sections = blocks.map Block.name ∧
      document.entries.map Entry.withoutLine =
        blocks.flatMap fun block => block.entries.map Entry.withoutLine := by
  obtain ⟨lines, after, reads, names, made⟩ := exists_reads_joinBlocks blocks
  rw [← dropMark_joinBlocks] at reads
  rw [← names] at distinct
  exact ⟨_, ofText_eq_ok_iff.2 ⟨lines, after, reads, distinct, rfl⟩, names, made ""⟩

/-! ## Blocks in another order -/

/-- The entries of a block are in its section. -/
theorem Block.sectionName_eq (block : Block) {entry : Entry} (member : entry ∈ block.entries) :
    entry.sectionName = block.name := by
  obtain ⟨lines, _, _, name, made⟩ := block.exists_reads
  have declared := @sectionName_mem "" lines entry (made "" ▸ member)
  rw [name] at declared
  rcases List.mem_cons.1 declared with root | here
  · exact (block.owned entry member root).elim
  · exact List.mem_singleton.1 here

/-- The entries of a section are those of the blocks with its name. -/
theorem filter_blockEntries (blocks : List Block) (wanted : String) :
    (blocks.flatMap fun block => block.entries.map Entry.withoutLine).filter
        (fun entry => entry.sectionName = wanted) =
      (blocks.filter fun block => block.name = wanted).flatMap fun block =>
        block.entries.map Entry.withoutLine := by
  induction blocks with
  | nil => rfl
  | cons block blocks induction =>
      have named : ∀ entry ∈ block.entries.map Entry.withoutLine,
          entry.sectionName = block.name := by
        intro entry member
        obtain ⟨original, within, rfl⟩ := List.mem_map.1 member
        have owned := block.sectionName_eq within
        exact owned
      rw [List.flatMap_cons, List.filter_append, induction]
      by_cases here : block.name = wanted
      · rw [List.filter_cons_of_pos (by simpa using here), List.flatMap_cons,
          List.filter_eq_self.2 fun entry member => by simpa [named entry member] using here]
      · rw [List.filter_cons_of_neg (by simpa using here),
          List.filter_eq_nil_iff.2 fun entry member => by simpa [named entry member] using here,
          List.nil_append]

/-! ## Phrases in joined blocks -/

theorem mentions_joinBlocks {phrase : List Char} (written : phrase ≠ [])
    (oneLine : '\n' ∉ phrase) (blocks : List Block) :
    mentions phrase (joinBlocks blocks).toList =
      blocks.any fun block => mentions phrase block.text.toList := by
  match blocks with
  | [] => simpa [mentions] using written
  | [block] => simp
  | block :: next :: blocks =>
      have others := mentions_joinBlocks written oneLine (next :: blocks)
      rw [toList_joinBlocks_cons, mentions_append_feed written oneLine, others]
      rfl

/-- Line breaks are white space. -/
theorem isBlankText_joinBlocks (blocks : List Block) :
    isBlankText (joinBlocks blocks).toList =
      blocks.all fun block => isBlankText block.text.toList := by
  match blocks with
  | [] => rfl
  | [block] => simp
  | block :: next :: blocks =>
      have others := isBlankText_joinBlocks (next :: blocks)
      rw [isBlankText] at others
      rw [toList_joinBlocks_cons, isBlankText, List.all_append, List.all_cons, others]
      rfl

end VersionCatalog
