import Mathlib.Data.String.Basic
import VersionCatalog.Files.Tree

/-!
# Places in a tree of files

A place is a list of names that lead down from the root. Following a path, with double dots on the
way, ends at the place that the path resolves to, if it ends anywhere. Whether a file stands at a
place does not change when something is set or removed at another one that does not lead to it.
-/

namespace VersionCatalog

namespace FileNode

/-- What stands at the end of names that only lead down. -/
def descend? (node : FileNode) : List String → Option FileNode
  | [] => some node
  | name :: names =>
      match node with
      | directory entries => (entries.lookup name).bind fun child => child.descend? names
      | _ => none

/-- Whether a node is a file, one that cannot be read included. -/
def isRegular (node : FileNode) : Bool :=
  node.kind == .file

/-- Whether a file stands at a place, unless the way there is locked. -/
def holdsFile (tree : FileNode) (place : List String) : Except AccessFault Bool :=
  match place, tree with
  | [], node => .ok node.isRegular
  | name :: names, directory entries =>
      match entries.lookup name with
      | some child => child.holdsFile names
      | none => .ok false
  | _ :: _, locked => .error .permissionDenied
  | _ :: _, _ => .ok false

/-- A name that an entry of a directory can be found by. -/
structure IsEntryName (name : String) : Prop where
  notDots : name ≠ ".."
  short : name.utf8ByteSize ≤ nameLimit

variable {tree node found child changed : FileNode} {parents : List FileNode}
  {entries : List (String × FileNode)} {name : String} {names location place : List String}

@[simp]
theorem descend?_nil (node : FileNode) : node.descend? [] = some node := rfl

theorem descend?_directory_cons (entries : List (String × FileNode)) (name : String)
    (names : List String) :
    (directory entries).descend? (name :: names) =
      (entries.lookup name).bind fun child => child.descend? names := rfl

theorem descend?_append (node : FileNode) (front back : List String) :
    node.descend? (front ++ back) =
      (node.descend? front).bind fun child => child.descend? back := by
  induction front generalizing node with
  | nil => rfl
  | cons name front induction =>
      cases node with
      | directory entries =>
          rw [List.cons_append, descend?_directory_cons, descend?_directory_cons, Option.bind_assoc]
          exact congrArg _ (funext fun child => induction child)
      | file content => rfl
      | unreadable reason => rfl
      | locked => rfl

/-! ## Following paths -/

/-- Names that only lead down are followed to what stands at their end. -/
theorem walk_of_descend? (plain : ∀ name ∈ names, IsEntryName name)
    (reached : node.descend? names = some found) : walk parents node names = .ok found := by
  induction names generalizing parents node with
  | nil =>
      cases reached
      rfl
  | cons name names induction =>
      obtain ⟨first, others⟩ := List.forall_mem_cons.1 plain
      cases node with
      | directory entries =>
          obtain ⟨child, inside, deeper⟩ := Option.bind_eq_some_iff.1 reached
          simp only [walk, if_neg first.notDots, if_neg (Nat.not_lt.2 first.short), inside]
          exact induction others deeper
      | file content => cases reached
      | unreadable reason => cases reached
      | locked => cases reached

/-- Whether a file stands at the end of such names can be seen by following them. -/
theorem holdsFile_eq (parents : List FileNode) (node : FileNode)
    (plain : ∀ name ∈ names, IsEntryName name) :
    node.holdsFile names =
      match walk parents node names with
      | .ok found => .ok found.isRegular
      | .error fault => if fault.isAbsence then .ok false else .error fault := by
  induction names generalizing parents node with
  | nil =>
      rw [holdsFile]
      rfl
  | cons name names induction =>
      obtain ⟨first, others⟩ := List.forall_mem_cons.1 plain
      cases node with
      | file content => rfl
      | unreadable reason => rfl
      | locked => rfl
      | directory entries =>
          simp only [walk, holdsFile, if_neg first.notDots, if_neg (Nat.not_lt.2 first.short)]
          cases entries.lookup name with
          | none => rfl
          | some child => exact induction _ child others

/-- A position on the way through a tree: the directories that were passed, the nearest first, the
node that is reached, and its place. -/
inductive Route (tree : FileNode) : List FileNode → FileNode → List String → Prop where
  | start : Route tree [] tree []
  | enter {parents : List FileNode} {entries : List (String × FileNode)} {name : String}
      {child : FileNode} {location : List String} :
      Route tree parents (directory entries) location → IsEntryName name →
        entries.lookup name = some child →
          Route tree (directory entries :: parents) child (location ++ [name])

namespace Route

theorem descend?_eq (route : Route tree parents node location) :
    tree.descend? location = some node := by
  induction route with
  | start => rfl
  | enter _ _ inside induction =>
      rw [descend?_append, induction]
      simp [descend?_directory_cons, inside]

theorem isEntryName (route : Route tree parents node location) :
    ∀ name ∈ location, IsEntryName name := by
  induction route with
  | start => exact nofun
  | enter _ named _ induction =>
      rw [List.forall_mem_append, List.forall_mem_singleton]
      exact ⟨induction, named⟩

/-- The parent of the root is the root. -/
theorem eq_nil (route : Route tree [] node location) : node = tree ∧ location = [] := by
  cases route
  exact ⟨rfl, rfl⟩

theorem leave {parent : FileNode} (route : Route tree (parent :: parents) node location) :
    Route tree parents parent location.dropLast := by
  cases route with
  | enter before _ _ => rwa [List.dropLast_concat]

/-- Following further names ends at the place that they resolve to. -/
theorem walk (route : Route tree parents node location)
    (reached : FileNode.walk parents node names = .ok found) :
    ∃ passed, Route tree passed found (names.foldl Path.stepLexically location) := by
  induction names generalizing parents node location with
  | nil =>
      cases reached
      exact ⟨parents, route⟩
  | cons name names induction =>
      rw [List.foldl_cons]
      unfold FileNode.walk at reached
      split at reached
      · next entries =>
          by_cases dots : name = ".."
          · rw [Path.stepLexically, if_pos dots]
            rw [if_pos dots] at reached
            cases parents with
            | nil =>
                obtain ⟨_, rfl⟩ := route.eq_nil
                exact induction route reached
            | cons parent parents => exact induction route.leave reached
          · rw [Path.stepLexically, if_neg dots]
            rw [if_neg dots] at reached
            split at reached
            · cases reached
            · next short =>
                split at reached
                · next child inside =>
                    have named : IsEntryName name := ⟨dots, Nat.not_lt.1 short⟩
                    exact induction (route.enter named inside) reached
                · cases reached
      · cases reached
      · cases reached

end Route

/-! ## Changes at other places -/

theorem lookup_setEntry (name other : String) (node : FileNode)
    (entries : List (String × FileNode)) :
    (setEntry name node entries).lookup other =
      if other = name then some node else entries.lookup other := by
  induction entries with
  | nil =>
      by_cases same : other = name
      · simp [setEntry, same]
      · simp [setEntry, same, List.lookup_cons, beq_false_of_ne same]
  | cons entry entries induction =>
      obtain ⟨key, old⟩ := entry
      by_cases replaced : key = name
      · by_cases same : other = name
        · simp [setEntry, replaced, same]
        · simp [setEntry, replaced, same, List.lookup_cons, beq_false_of_ne same]
      · by_cases first : other = key
        · simp [setEntry, replaced, first]
        · simp [setEntry, replaced, List.lookup_cons, beq_false_of_ne first, induction]

/-- No file stands in an empty directory. -/
theorem holdsFile_emptyDirectory (place : List String) :
    emptyDirectory.holdsFile place = .ok false := by
  cases place with
  | nil => rfl
  | cons name place => rfl

theorem holdsFile_cons (entries : List (String × FileNode)) (name : String)
    (place : List String) :
    (directory entries).holdsFile (name :: place) =
      ((entries.lookup name).getD emptyDirectory).holdsFile place := by
  rw [holdsFile]
  cases entries.lookup name with
  | none => rw [Option.getD_none, holdsFile_emptyDirectory]
  | some child => rfl

theorem holdsFile_append (reached : node.descend? location = some found) (place : List String) :
    node.holdsFile (location ++ place) = found.holdsFile place := by
  induction location generalizing node with
  | nil =>
      cases reached
      rfl
  | cons name location induction =>
      cases node with
      | directory entries =>
          obtain ⟨child, inside, deeper⟩ := Option.bind_eq_some_iff.1 reached
          rw [List.cons_append, holdsFile_cons, inside]
          exact induction deeper
      | file content => cases reached
      | unreadable reason => cases reached
      | locked => cases reached

/-- The way through a directory that is not locked is open at every place above it. -/
theorem exists_holdsFile_take (reached : node.descend? location = some (directory entries))
    (count : Nat) (name : String) :
    ∃ holds, node.holdsFile (location.take count ++ [name]) = .ok holds := by
  induction location generalizing node count with
  | nil =>
      cases reached
      rw [List.take_nil, List.nil_append, holdsFile]
      split
      · exact ⟨_, by rw [holdsFile]⟩
      · exact ⟨_, rfl⟩
  | cons next location induction =>
      cases node with
      | directory others =>
          obtain ⟨child, inside, deeper⟩ := Option.bind_eq_some_iff.1 reached
          cases count with
          | zero =>
              rw [List.take_zero, List.nil_append, holdsFile]
              split
              · exact ⟨_, by rw [holdsFile]⟩
              · exact ⟨_, rfl⟩
          | succ count =>
              rw [List.take_succ_cons, List.cons_append, holdsFile_cons, inside]
              exact induction deeper count
      | file content => cases reached
      | unreadable reason => cases reached
      | locked => cases reached

/-- Setting an entry makes no difference to what stands beside it. -/
theorem holdsFile_setEntry
    (below : ∀ rest, place = name :: rest →
      child.holdsFile rest = ((entries.lookup name).getD emptyDirectory).holdsFile rest) :
    (directory (setEntry name child entries)).holdsFile place =
      (directory entries).holdsFile place := by
  cases place with
  | nil => rfl
  | cons other rest =>
      rw [holdsFile_cons, holdsFile_cons, lookup_setEntry]
      split
      · next same =>
          subst same
          exact below rest rfl
      · rfl

/-- Setting a node makes no difference to the files at places that it does not lead to. -/
theorem holdsFile_place (placed : tree.place location node = some changed)
    (apart : ¬location <+: place) : changed.holdsFile place = tree.holdsFile place := by
  induction location generalizing tree changed place with
  | nil => exact (apart List.nil_prefix).elim
  | cons name location induction =>
      cases tree with
      | file content => cases placed
      | unreadable reason => cases placed
      | locked => cases placed
      | directory entries =>
          obtain ⟨child, inside, rfl⟩ := Option.map_eq_some_iff.1 placed
          refine holdsFile_setEntry fun rest whole => induction inside fun leads => apart ?_
          rw [whole]
          exact List.cons_prefix_cons.2 ⟨rfl, leads⟩

/-- Removing an entry makes no difference to the others. -/
theorem lookup_filter_of_ne {other : String} (apart : other ≠ name)
    (entries : List (String × FileNode)) :
    (entries.filter fun entry => entry.1 != name).lookup other = entries.lookup other := by
  induction entries with
  | nil => rfl
  | cons entry entries induction =>
      obtain ⟨key, child⟩ := entry
      by_cases removed : key = name
      · simp [removed, List.lookup_cons, beq_false_of_ne apart, induction]
      · simp [removed, List.lookup_cons, induction]

/-- Removing a node makes no difference to the files at places that it does not lead to. -/
theorem holdsFile_remove (removed : tree.remove location = some changed)
    (apart : ¬location <+: place) : changed.holdsFile place = tree.holdsFile place := by
  induction location generalizing tree changed place with
  | nil => exact (apart List.nil_prefix).elim
  | cons name location induction =>
      cases tree with
      | file content => cases location <;> cases removed
      | unreadable reason => cases location <;> cases removed
      | locked => cases location <;> cases removed
      | directory entries =>
          cases location with
          | nil =>
              obtain ⟨_, same⟩ := Option.ite_none_right_eq_some.1 removed
              cases same
              cases place with
              | nil => rfl
              | cons other rest =>
                  have different : other ≠ name := by
                    rintro rfl
                    exact apart (List.cons_prefix_cons.2 ⟨rfl, List.nil_prefix⟩)
                  rw [holdsFile_cons, holdsFile_cons, lookup_filter_of_ne different]
          | cons next location =>
              obtain ⟨old, found, deeper⟩ := Option.bind_eq_some_iff.1 removed
              obtain ⟨child, inside, same⟩ := Option.bind_eq_some_iff.1 deeper
              cases same
              refine holdsFile_setEntry fun rest whole => ?_
              rw [found, Option.getD_some]
              refine induction inside fun leads => apart ?_
              rw [whole]
              exact List.cons_prefix_cons.2 ⟨rfl, leads⟩

end FileNode

end VersionCatalog
