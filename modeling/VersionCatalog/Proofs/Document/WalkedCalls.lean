import VersionCatalog.Proofs.Document.Calls
import VersionCatalog.Proofs.Document.WalkedReaders

/-!
# Walks over calls

Each stage of reading has its walk, which comes to all positions where the calls that it makes begin
and end. So the walk over the lines of a text leaves none of them out, and calls lead forward.
-/

namespace VersionCatalog.Document

open Text

namespace Stage

variable [CallStack]

/-- The walk of a round. -/
def roundWalk : (loop : Loop) → Walk (Next loop.Item)
  | .lines => Walk.line
  | .keyParts => Walk.dottedPart
  | .fields depth opening => Walk.field (Walk.valueWithin depth) opening
  | .items opening => Walk.item opening
  | .quoted opening => Walk.basicPart opening
  | .escaped => Walk.escapedPart

@[simp] theorem read_roundWalk (loop : Loop) : (roundWalk loop).read = loop.next := by
  cases loop <;> simp [roundWalk, Loop.next]

/-- The walk of a stage. -/
def walk : (stage : Stage) → Walk stage.Item
  | rounds loop => Walk.many (roundWalk loop)
  | round loop => roundWalk loop
  | header => Walk.header
  | assignment => Walk.assignment
  | key => Walk.key
  | keyPart => Walk.keyPart
  | value depth => Walk.valueWithin depth
  | table depth => Walk.table (Walk.valueWithin depth)
  | array => Walk.array
  | text => Walk.text
  | bareWord => Walk.bareWord
  | basic => Walk.basic
  | literal => Walk.literal
  | long quote => Walk.long quote
  | escape => Walk.escape
  | inlineBlank => Walk.skipInline
  | filler => Walk.skipFiller
  | lineEnd content => Walk.finishLine content

theorem read_walk (stage : Stage) (cursor : Cursor) :
    stage.walk.read cursor = stage.read cursor := by
  cases stage <;> simp [walk, read]

/-! ## What is called is come to -/

section Trails

variable {other : Stage} {cursor begun : Cursor}

/-- The walk of a stage comes to all that the walks of its calls come to. -/
def Covers (stage : Stage) : Prop :=
  ∀ {other : Stage} {cursor begun : Cursor}, (other, begun) ∈ stage.calls cursor →
    other.walk.trail begun ⊆ stage.walk.trail cursor

theorem covers_rounds (loop : Loop) : (rounds loop).Covers := by
  intro other cursor begun called
  have progressive := loop.progressive_next
  rw [← read_roundWalk] at progressive
  rcases List.mem_cons.1 called with same | later
  · cases same
    exact Walk.trail_many_round _ _
  · split at later
    · next item after read =>
        cases List.mem_singleton.1 later
        rw [← read_roundWalk] at read
        exact Walk.trail_many_more progressive read
    · cases later

theorem covers_line : (round .lines).Covers := by
  intro other cursor begun called
  rcases List.mem_cons.1 called with same | later
  · cases same
    exact Walk.trail_first (List.Subset.refl _)
  · split at later
    · cases later
    · next rest opened =>
        cases List.mem_singleton.1 later
        refine Walk.trail_later (Walk.read_skipFiller cursor) (Walk.trail_here ?_)
        simp only [opened]
        exact Walk.trail_map (List.Subset.refl _)
    · next notEmpty notHeader =>
        cases List.mem_singleton.1 later
        refine Walk.trail_later (Walk.read_skipFiller cursor) (Walk.trail_here ?_)
        split
        · next ended => exact (notEmpty ended).elim
        · next rest opened => exact (notHeader rest opened).elim
        · exact Walk.trail_map (List.Subset.refl _)

theorem covers_dottedPart : (round .keyParts).Covers := by
  intro other cursor begun called
  rcases List.mem_cons.1 called with same | later
  · cases same
    exact Walk.trail_first (List.Subset.refl _)
  · split at later
    · next rest dotted =>
        refine Walk.trail_later (Walk.read_skipInline cursor) (Walk.trail_here ?_)
        simp only [dotted]
        refine Walk.trail_later (Walk.read_advance 1 cursor.skipInline) ?_
        rcases List.mem_cons.1 later with same | last
        · cases same
          exact Walk.trail_first (List.Subset.refl _)
        · cases List.mem_singleton.1 last
          exact Walk.trail_later (Walk.read_skipInline _) (Walk.trail_map (List.Subset.refl _))
    · cases later

theorem covers_item (opening : Nat) : (round (.items opening)).Covers := by
  intro other cursor begun called
  rcases List.mem_cons.1 called with same | later
  · cases same
    exact Walk.trail_first (List.Subset.refl _)
  · split at later
    · cases later
    · cases later
    · cases later
    · cases later
    · next notEmpty notClosed notTable notArray =>
        refine Walk.trail_later (Walk.read_skipFiller cursor) (Walk.trail_here ?_)
        split
        · next ended => exact (notEmpty ended).elim
        · next rest closed => exact (notClosed rest closed).elim
        · next rest table => exact (notTable rest table).elim
        · next rest array => exact (notArray rest array).elim
        · rcases List.mem_cons.1 later with same | last
          · cases same
            exact Walk.trail_first (List.Subset.refl _)
          · split at last
            · cases last
            · next item after read =>
                cases List.mem_singleton.1 last
                exact Walk.trail_later ((Walk.read_text _).trans read)
                  (Walk.trail_first (List.Subset.refl _))

theorem covers_quoted (opening : Nat) : (round (.quoted opening)).Covers := by
  intro other cursor begun called
  rw [calls] at called
  split at called
  · next rest opened =>
      cases List.mem_singleton.1 called
      refine Walk.trail_here ?_
      simp only [opened]
      exact Walk.trail_later (Walk.read_advance 1 cursor) (Walk.trail_map (List.Subset.refl _))
  · cases called

theorem covers_escaped : (round .escaped).Covers := by
  intro other cursor begun called
  rw [calls] at called
  split at called
  · next rest opened =>
      cases List.mem_singleton.1 called
      refine Walk.trail_here ?_
      simp only [opened]
      exact Walk.trail_later (Walk.read_advance 1 cursor) (Walk.trail_map (List.Subset.refl _))
  · cases called

theorem covers_header : header.Covers := by
  intro other cursor begun called
  rw [calls] at called
  split at called
  · cases called
  · next single =>
      dsimp only at called
      split at called
      · next rest closed =>
          split at called
          · cases called
          · next named =>
              cases List.mem_singleton.1 called
              have passed := advance_takeWhile_succ (by decide) (by decide) closed
              refine Walk.trail_later (Walk.read_advance 1 cursor) (Walk.trail_here ?_)
              rw [if_neg single]
              simp only [closed, named, Bool.false_eq_true, if_false]
              refine Walk.trail_later (Walk.read_advance _ _) ?_
              rw [passed]
              exact Walk.trail_first (List.Subset.refl _)
      · cases called

theorem covers_key : key.Covers := by
  intro other cursor begun called
  rcases List.mem_cons.1 called with same | later
  · cases same
    exact Walk.trail_first (List.Subset.refl _)
  · split at later
    · cases later
    · next part after read =>
        cases List.mem_singleton.1 later
        exact Walk.trail_later ((Walk.read_keyPart cursor).trans read)
          (Walk.trail_map (List.Subset.refl _))

theorem covers_keyPart : keyPart.Covers := by
  intro other cursor begun called
  rw [calls] at called
  split at called
  · next rest opened =>
      cases List.mem_singleton.1 called
      refine Walk.trail_here ?_
      simp only [opened]
      exact List.Subset.refl _
  · next rest opened =>
      cases List.mem_singleton.1 called
      refine Walk.trail_here ?_
      simp only [opened]
      exact List.Subset.refl _
  · cases called

theorem trail_flatValue_subset (depth : Nat) (notTable : cursor.rest.head? ≠ some '\x7b') :
    Walk.flatValue.trail cursor ⊆ (Walk.valueWithin depth).trail cursor := by
  cases depth with
  | zero =>
      refine Walk.trail_here ?_
      rw [if_neg notTable]
      exact List.Subset.refl _
  | succ depth =>
      refine Walk.trail_here ?_
      rw [if_neg notTable]
      exact List.Subset.refl _

theorem covers_value (depth : Nat) : (value depth).Covers := by
  intro other cursor begun called
  rw [calls.eq_def] at called
  dsimp only at called
  split at called
  · next rest depth opened =>
      cases List.mem_singleton.1 called
      refine Walk.trail_here ?_
      simp only [opened, List.head?_cons, if_true]
      exact Walk.trail_map (List.Subset.refl _)
  · cases called
  · next rest opened =>
      cases List.mem_singleton.1 called
      have notTable : cursor.rest.head? ≠ some '\x7b' := by simp [opened]
      refine List.Subset.trans ?_ (trail_flatValue_subset _ notTable)
      refine Walk.trail_here ?_
      simp only [opened, List.head?_cons, if_true]
      exact Walk.trail_map (List.Subset.refl _)
  · next notArray notNested notExhausted =>
      cases List.mem_singleton.1 called
      have notTable : cursor.rest.head? ≠ some '\x7b' := by
        refine head?_ne_of_forall fun others opened => ?_
        rcases Nat.eq_zero_or_eq_succ_pred _ with none_left | more
        · exact notExhausted others opened none_left
        · exact notNested others _ opened more
      have notBracket : cursor.rest.head? ≠ some '[' :=
        head?_ne_of_forall fun others opened => notArray others opened
      refine List.Subset.trans ?_ (trail_flatValue_subset _ notTable)
      refine Walk.trail_here ?_
      rw [if_neg notBracket]
      exact Walk.trail_map (List.Subset.refl _)

theorem covers_table (depth : Nat) : (table depth).Covers := by
  intro other cursor begun called
  refine Walk.trail_here (Walk.trail_later (Walk.read_advance 1 cursor) ?_)
  rcases List.mem_cons.1 called with same | later
  · cases same
    exact Walk.trail_first (List.Subset.refl _)
  · refine Walk.trail_later (Walk.read_skipFiller _) (Walk.trail_here ?_)
    split at later
    · cases later
    · next notClosed =>
        cases List.mem_singleton.1 later
        rw [if_neg notClosed]
        exact List.Subset.refl _

theorem covers_array : array.Covers := by
  intro other cursor begun called
  cases List.mem_singleton.1 called
  exact Walk.trail_here (Walk.trail_later (Walk.read_advance 1 cursor) (List.Subset.refl _))

theorem covers_text : text.Covers := by
  intro other cursor begun called
  rw [calls] at called
  split at called
  · next rest opened =>
      cases List.mem_singleton.1 called
      refine Walk.trail_map (Walk.trail_here ?_)
      simp only [opened]
      exact List.Subset.refl _
  · next rest opened =>
      cases List.mem_singleton.1 called
      refine Walk.trail_map (Walk.trail_here ?_)
      simp only [opened]
      exact List.Subset.refl _
  · next rest notLong opened =>
      cases List.mem_singleton.1 called
      refine Walk.trail_map (Walk.trail_here ?_)
      split
      · next tail long =>
          rw [opened] at long
          cases long
          exact (notLong tail rfl).elim
      · next long => exact absurd (opened.symm.trans long) (by simp)
      · exact List.Subset.refl _
      · next single => exact absurd (opened.symm.trans single) (by simp)
      · next notDouble notSingle => exact (notDouble rest opened).elim
  · next rest notLong opened =>
      cases List.mem_singleton.1 called
      refine Walk.trail_map (Walk.trail_here ?_)
      split
      · next long => exact absurd (opened.symm.trans long) (by simp)
      · next tail long =>
          rw [opened] at long
          cases long
          exact (notLong tail rfl).elim
      · next double => exact absurd (opened.symm.trans double) (by simp)
      · exact List.Subset.refl _
      · next notDouble notSingle => exact (notSingle rest opened).elim
  · next notLongDouble notLongSingle notDouble notSingle =>
      cases List.mem_singleton.1 called
      refine Walk.trail_map (Walk.trail_here ?_)
      split
      · next tail long => exact (notLongDouble tail long).elim
      · next tail long => exact (notLongSingle tail long).elim
      · next tail _ opened => exact (notDouble tail opened).elim
      · next tail _ opened => exact (notSingle tail opened).elim
      · exact List.Subset.refl _

/-- What is called after a key is come to by a walk that passes the equals sign and a value. -/
theorem covers_afterKey {α : Type} {depth : Nat} {ends : Cursor → List (Stage × Cursor)}
    {missing : Cursor → Walk α} {later : Node → Walk α} {named : Cursor}
    (covered : ∀ node valued, (other, begun) ∈ ends valued →
      other.walk.trail begun ⊆ (later node).trail valued)
    (called : (other, begun) ∈ callsAfterKey depth ends named) :
    other.walk.trail begun ⊆ (do
      Walk.skipInline
      let after ← Walk.here
      if after.peek? ≠ some '=' then missing after
      else
        Walk.advance 1
        Walk.skipInline
        let node ← Walk.valueWithin depth
        later node : Walk α).trail named := by
  rcases List.mem_cons.1 called with same | further
  · cases same
    exact Walk.trail_first (List.Subset.refl _)
  · refine Walk.trail_later (Walk.read_skipInline named) (Walk.trail_here ?_)
    split at further
    · cases further
    · next assigned =>
        rw [if_neg assigned]
        refine Walk.trail_later (Walk.read_advance 1 _) ?_
        rcases List.mem_cons.1 further with same | valued
        · cases same
          exact Walk.trail_first (List.Subset.refl _)
        · refine Walk.trail_later (Walk.read_skipInline _) ?_
          rcases List.mem_cons.1 valued with same | ended
          · cases same
            exact Walk.trail_first (List.Subset.refl _)
          · split at ended
            · cases ended
            · next node after read =>
                rw [← Walk.read_valueWithin] at read
                exact Walk.trail_later read (covered node after ended)

theorem covers_assignment : assignment.Covers := by
  intro other cursor begun called
  rcases List.mem_cons.1 called with same | later
  · cases same
    exact Walk.trail_first (List.Subset.refl _)
  · split at later
    · cases later
    · next name named read =>
        refine Walk.trail_later ((Walk.read_key cursor).trans read) ?_
        refine covers_afterKey (fun node valued ended => ?_) later
        cases List.mem_singleton.1 ended
        exact Walk.trail_first (List.Subset.refl _)

theorem covers_field (depth opening : Nat) : (round (.fields depth opening)).Covers := by
  intro other cursor begun called
  rw [calls] at called
  refine Walk.trail_here ?_
  split at called
  · cases called
  · next unended =>
      rw [if_neg unended]
      rcases List.mem_cons.1 called with same | later
      · cases same
        exact Walk.trail_first (List.Subset.refl _)
      · split at later
        · cases later
        · next name named read =>
            refine Walk.trail_later ((Walk.read_key cursor).trans read) ?_
            refine covers_afterKey (fun node valued ended => ?_) later
            rcases List.mem_cons.1 ended with same | last
            · cases same
              exact Walk.trail_first (List.Subset.refl _)
            · refine Walk.trail_later (Walk.read_skipFiller valued) (Walk.trail_here ?_)
              split at last
              · next rest separated =>
                  cases List.mem_singleton.1 last
                  simp only [separated]
                  exact Walk.trail_later (Walk.read_advance 1 _)
                    (Walk.trail_first (List.Subset.refl _))
              · cases last

theorem covers_basic : basic.Covers := by
  intro other cursor begun called
  cases List.mem_singleton.1 called
  exact Walk.trail_here
    (Walk.trail_later (Walk.read_advance 1 cursor) (Walk.trail_map (List.Subset.refl _)))

theorem covers_lineEnd (content : LineContent) : (lineEnd content).Covers := by
  intro other cursor begun called
  cases List.mem_singleton.1 called
  exact Walk.trail_first (List.Subset.refl _)

theorem covers (stage : Stage) : stage.Covers := by
  cases stage with
  | rounds loop => exact covers_rounds loop
  | round loop =>
      cases loop with
      | lines => exact covers_line
      | keyParts => exact covers_dottedPart
      | fields depth opening => exact covers_field depth opening
      | items opening => exact covers_item opening
      | quoted opening => exact covers_quoted opening
      | escaped => exact covers_escaped
  | header => exact covers_header
  | assignment => exact covers_assignment
  | key => exact covers_key
  | keyPart => exact covers_keyPart
  | value depth => exact covers_value depth
  | table depth => exact covers_table depth
  | array => exact covers_array
  | text => exact covers_text
  | basic => exact covers_basic
  | lineEnd content => exact covers_lineEnd content
  | bareWord | literal | long | escape | inlineBlank | filler =>
      intro other cursor begun called
      cases called

/-- Calls lead forward. -/
theorem passes_of_mem_calls {stage : Stage} (called : (other, begun) ∈ stage.calls cursor) :
    cursor.Passes begun := by
  have member := covers stage called (Walk.mem_trail_start _ _)
  obtain ⟨last, course, _⟩ := stage.walk.course cursor
  exact course.passes_of_mem member

/-- The walk over the lines comes to all that the walks of the stages of a run come to. -/
theorem Called.trail_subset {text : List Char} {stage : Stage} {cursor : Cursor}
    (called : Called text stage cursor) :
    stage.walk.trail cursor ⊆ Walk.lines.trail (Cursor.start text) := by
  induction called with
  | start => exact List.Subset.refl _
  | call _ called induction => exact List.Subset.trans (covers _ called) induction

/-- So it comes to the positions where they begin, and to those where they end. -/
theorem Called.mem_trail {text : List Char} {stage : Stage} {cursor : Cursor}
    (called : Called text stage cursor) :
    cursor ∈ Walk.lines.trail (Cursor.start text) ∧
      ∀ {value : stage.Item} {after : Cursor}, stage.read cursor = .ok (value, after) →
        after ∈ Walk.lines.trail (Cursor.start text) := by
  refine ⟨called.trail_subset (Walk.mem_trail_start _ _), fun read => ?_⟩
  rw [← read_walk] at read
  exact called.trail_subset (Walk.mem_trail_of_read read)

end Trails

end Stage

end VersionCatalog.Document
