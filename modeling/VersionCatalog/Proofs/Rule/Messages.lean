import Mathlib.Data.List.Pairwise
import VersionCatalog.Rule.Standard

/-!
# The messages of the standard rules

Every message of a standard rule begins with words of that rule. No two rules have such words in
common, and so the words that a message begins with tell which rule found it.
-/

namespace VersionCatalog.Rule

variable {rule : Rule} {context : RuleContext}

/-- Words begin a message. -/
def Begins (opening message : String) : Prop :=
  opening.toList <+: message.toList

instance (opening message : String) : Decidable (Begins opening message) :=
  inferInstanceAs (Decidable (_ <+: _))

/-- Every message of a rule begins with one of these words. -/
def Opens (rule : Rule) (context : RuleContext) (openings : List String) : Prop :=
  ∀ findings, rule.check context = .ok findings →
    ∀ finding ∈ findings, ∃ opening ∈ openings, Begins opening finding.message

/-- The standard rules with the words that their messages begin with. -/
def standardOpenings : List (Rule × List String) :=
  [(requiredSections, ["The "]),
   (emptySections, ["Empty section: "]),
   (versionFormat, ["Invalid version format: "]),
   (duplicateKeys, ["Duplicate key: "]),
   (versionReferences, ["Missing version reference: ", "Unreferenced version: "]),
   (moduleFormat, ["Invalid module format: "]),
   (pluginIdFormat, ["Invalid plugin ID format: "]),
   (criticalDependencies, ["Missing critical dependency: "]),
   (versionCompatibility, ["Version incompatibility: "]),
   (bundleReferences, ["Invalid bundle reference: "]),
   (vulnerableVersions, ["Potentially vulnerable version: "])]

theorem opens_of_map {α : Type} {items : List α} {finding : α → Finding} {opening : String}
    (checked : rule.check context = .ok (items.map finding))
    (begins : ∀ item, Begins opening (finding item).message) : rule.Opens context [opening] := by
  intro findings found
  cases checked.symm.trans found
  exact List.forall_mem_map.2 fun item _ => ⟨opening, List.mem_singleton_self _, begins item⟩

theorem versionReferences_opens :
    versionReferences.Opens context ["Missing version reference: ", "Unreferenced version: "] := by
  rintro _ ⟨⟩
  rw [List.forall_mem_append, List.forall_mem_map, List.forall_mem_map]
  constructor
  · intro key _
    exact ⟨_, List.mem_cons_self, by simp [Begins, toString]⟩
  · intro key _
    exact ⟨_, List.mem_cons_of_mem _ List.mem_cons_self, by simp [Begins, toString]⟩

theorem criticalDependencies_opens :
    criticalDependencies.Opens context ["Missing critical dependency: "] := by
  intro findings found
  simp only [criticalDependencies] at found
  split at found
  · cases found
    exact List.forall_mem_nil _
  · cases found
    rw [List.forall_mem_singleton]
    exact ⟨_, List.mem_singleton_self _, by decide⟩

theorem versionCompatibility_opens :
    versionCompatibility.Opens context ["Version incompatibility: "] := by
  intro findings found
  simp only [versionCompatibility] at found
  generalize requirements = known at found
  induction known generalizing findings with
  | nil =>
      cases found
      exact List.forall_mem_nil _
  | cons requirement others induction =>
      simp only [brokenRequirements] at found
      split at found
      · cases found
      · cases later : brokenRequirements context.catalog others with
        | error broken =>
            rw [later] at found
            cases found
        | ok rest =>
            rw [later] at found
            cases found
            rw [List.forall_mem_cons]
            refine ⟨⟨_, List.mem_singleton_self _, ?_⟩, induction rest later⟩
            simp [Requirement.finding, Begins, toString]
      · exact induction findings found

theorem standardOpenings_opens : ∀ pair ∈ standardOpenings, pair.1.Opens context pair.2 := by
  simp only [standardOpenings, List.forall_mem_cons]
  refine ⟨opens_of_map rfl ?_, opens_of_map rfl ?_, opens_of_map rfl ?_, opens_of_map rfl ?_,
    versionReferences_opens, opens_of_map rfl ?_, opens_of_map rfl ?_, criticalDependencies_opens,
    versionCompatibility_opens, opens_of_map rfl ?_, opens_of_map rfl ?_, nofun⟩
  all_goals
    intro item
    simp [Begins, toString]

theorem exists_mem_standardOpenings (listed : rule ∈ standard) :
    ∃ openings, (rule, openings) ∈ standardOpenings := by
  have listed : rule ∈ standardOpenings.map Prod.fst := listed
  obtain ⟨⟨_, openings⟩, member, rfl⟩ := List.mem_map.1 listed
  exact ⟨openings, member⟩

/-- Words that begin one message begin each other. -/
def Overlap (first second : String) : Prop :=
  Begins first second ∨ Begins second first

instance (first second : String) : Decidable (Overlap first second) :=
  inferInstanceAs (Decidable (_ ∨ _))

theorem overlap_of_begins {first second message : String} (one : Begins first message)
    (other : Begins second message) : Overlap first second :=
  List.prefix_or_prefix_of_prefix one other

/-- No words of one list begin words of the other. -/
def Apart (left right : List String) : Prop :=
  ∀ first ∈ left, ∀ second ∈ right, ¬Overlap first second

instance (left right : List String) : Decidable (Apart left right) :=
  inferInstanceAs (Decidable (∀ first ∈ left, ∀ second ∈ right, ¬Overlap first second))

instance : Std.Symm fun left right : Rule × List String => Apart left.2 right.2 :=
  ⟨fun _ _ apart first one second two overlap => apart second two first one overlap.symm⟩

theorem standardOpenings_apart :
    standardOpenings.Pairwise fun left right => Apart left.2 right.2 := by
  decide

/-- The words that a message begins with tell which standard rule found it. -/
theorem eq_of_begins {own : Rule × List String} (known : own ∈ standardOpenings)
    {words : String} (word : words ∈ own.2) (listed : rule ∈ standard) {findings : List Finding}
    (found : rule.check context = .ok findings) {finding : Finding} (member : finding ∈ findings)
    (begins : Begins words finding.message) : rule = own.1 := by
  obtain ⟨openings, given⟩ := exists_mem_standardOpenings listed
  obtain ⟨opening, other, opens⟩ := standardOpenings_opens _ given findings found finding member
  by_contra different
  have distinct : (rule, openings) ≠ own := fun same => different (congrArg Prod.fst same)
  exact standardOpenings_apart.forall given known distinct opening other words word
    (overlap_of_begins opens begins)

end VersionCatalog.Rule
