import Mathlib.Algebra.Ring.Nat
import Mathlib.Data.List.Flatten
import Mathlib.Data.Nat.Find
import VersionCatalog.Proofs.Files.Places
import VersionCatalog.Settings.File

/-!
# The nearest settings file

The search for a settings file looks into a directory and into those above it, in this order and
into twenty at most. `find_outcome` says what it finds in every file system: the file in the nearest
of these directories that holds one, whatever stands anywhere else. It breaks off only at a place
that cannot be looked at, when none nearer holds one. In a tree without links, this is a first place
whose path is too long, or a locked directory; since the paths get shorter on the way up, no later
one is in the way.
-/

namespace VersionCatalog

open FileNode

/-! ## Paths that cannot be followed -/

/-- Why a path cannot be followed, whatever stands in the tree. -/
def Path.refusal? (path : Path) : Option AccessFault :=
  if path.text.toList.contains '\x00' then some .nullCharacter
  else if pathLimit ≤ path.text.utf8ByteSize then some .nameTooLong
  else none

theorem Path.refusal?_eq_none_iff {path : Path} :
    path.refusal? = none ↔ '\x00' ∉ path.text.toList ∧ path.text.utf8ByteSize < pathLimit := by
  unfold refusal?
  split
  · next null => simpa using fun other => absurd (List.contains_iff_mem.1 null) other
  · next nullFree =>
      rw [List.contains_iff_mem] at nullFree
      split
      · next long => simpa [nullFree] using long
      · next short => simpa [nullFree] using short

theorem Files.find_eq (files : Files) (path : Path) :
    files.find path =
      match path.refusal? with
      | some fault => .error fault
      | none => files.root.walk [] (path.namesFrom files.directory) := by
  unfold find Path.refusal?
  split
  · rfl
  · split <;> rfl

/-- A path from the root is its names with a slash before each. -/
theorem Path.toList_text_ofLocation {location : List String} (written : location ≠ []) :
    (Path.ofLocation location).text.toList = location.flatMap fun name => '/' :: name.toList := by
  induction location with
  | nil => contradiction
  | cons name names induction =>
      cases names with
      | nil => simp [ofLocation, text]
      | cons next names =>
          have others := induction (by simp)
          simp only [ofLocation, text, String.toList_append, String.toList_intercalate,
            List.map_cons, List.intercalate_cons_cons, List.flatMap_cons] at others ⊢
          rw [List.append_assoc, others]
          rfl

/-- Every name takes its bytes and one for its slash. -/
theorem Path.utf8ByteSize_text_ofLocation {location : List String} (written : location ≠ []) :
    (Path.ofLocation location).text.utf8ByteSize =
      (location.map fun name => name.utf8ByteSize + 1).sum := by
  have counted : ∀ names : List String,
      String.utf8Len (names.flatMap fun name => '/' :: name.toList) =
        (names.map fun name => name.utf8ByteSize + 1).sum := by
    intro names
    induction names with
    | nil => rfl
    | cons name names induction =>
        rw [List.flatMap_cons, String.utf8Len_append, String.utf8Len_cons, String.utf8Len_toList,
          induction]
        rfl
  rw [← String.utf8Len_toList, toList_text_ofLocation written, counted]

theorem Path.nullFree_ofLocation {location : List String}
    (nullFree : ∀ name ∈ location, '\x00' ∉ name.toList) :
    '\x00' ∉ (Path.ofLocation location).text.toList := by
  by_cases written : location = []
  · subst written
    decide
  · rw [toList_text_ofLocation written, List.mem_flatMap]
    rintro ⟨name, member, inside⟩
    rcases List.mem_cons.1 inside with slash | within
    · exact absurd slash (by decide)
    · exact nullFree name member within

theorem Path.refusal?_eq_nameTooLong {path : Path} (nullFree : '\x00' ∉ path.text.toList)
    (long : pathLimit ≤ path.text.utf8ByteSize) : path.refusal? = some .nameTooLong := by
  rw [refusal?, if_neg (by simpa using nullFree), if_pos long]

/-- A path can be followed where a longer one can. -/
theorem Path.refusal?_of_sublist {location shorter : List String} (written : shorter ≠ [])
    (fewer : shorter.Sublist location) (taken : (Path.ofLocation location).refusal? = none) :
    (Path.ofLocation shorter).refusal? = none := by
  have longer : location ≠ [] := by
    rintro rfl
    exact written (List.sublist_nil.1 fewer)
  have inside : (Path.ofLocation shorter).text.toList.Sublist
      (Path.ofLocation location).text.toList := by
    rw [toList_text_ofLocation written, toList_text_ofLocation longer]
    exact fewer.flatMap _
  have size := String.utf8Len_le_of_sublist inside
  rw [String.utf8Len_toList, String.utf8Len_toList] at size
  obtain ⟨nullFree, short⟩ := refusal?_eq_none_iff.1 taken
  exact refusal?_eq_none_iff.2
    ⟨fun null => nullFree (inside.mem null), Nat.lt_of_le_of_lt size short⟩

namespace Settings

variable {system other : FileSystem} {files : Files} {start : Path} {location place : List String}
  {levels : Nat}

/-! ## The places of the search -/

/-- The directory so many levels above a place. -/
def above (location : List String) (levels : Nat) : List String :=
  location.take (location.length - levels)

/-- Where the settings file of a directory stands. -/
def placeIn (directory : List String) : List String :=
  directory ++ [fileName]

/-- The directory so many levels above a place is one of those that are searched. -/
structure IsSearched (location : List String) (levels : Nat) : Prop where
  inside : levels ≤ location.length
  near : levels < searchDepth

/-- Whether the directory so many levels above a place holds a settings file. -/
def holdsSettings (system : FileSystem) (location : List String) (levels : Nat) :
    Except AccessFault Bool :=
  isFile system (placeIn (above location levels))

/-- No settings file stands in a directory that is nearer to a place. -/
def NoneNearer (system : FileSystem) (location : List String) (levels : Nat) : Prop :=
  ∀ nearer < levels, holdsSettings system location nearer = .ok false

/-- The settings file nearest to a place stands in the directory so many levels above. -/
structure IsNearest (system : FileSystem) (location : List String) (levels : Nat) : Prop where
  searched : IsSearched location levels
  holds : holdsSettings system location levels = .ok true
  first : NoneNearer system location levels

/-- The directory so many levels above a place cannot be looked into, and none nearer holds a
settings file. -/
structure IsBlocked (system : FileSystem) (location : List String) (levels : Nat)
    (fault : AccessFault) : Prop where
  searched : IsSearched location levels
  blocked : holdsSettings system location levels = .error fault
  first : NoneNearer system location levels

theorem isSearched_iff :
    IsSearched location levels ↔ levels < min searchDepth (location.length + 1) := by
  rw [Nat.lt_min, Nat.lt_succ_iff]
  exact ⟨fun searched => ⟨searched.near, searched.inside⟩, fun ⟨near, inside⟩ => ⟨inside, near⟩⟩

theorem IsSearched.of_le {nearer : Nat} (searched : IsSearched location levels)
    (below : nearer ≤ levels) : IsSearched location nearer :=
  ⟨Nat.le_trans below searched.inside, Nat.lt_of_le_of_lt below searched.near⟩

theorem candidates_eq (location : List String) :
    candidates location =
      (List.range (min searchDepth (location.length + 1))).map fun levels =>
        placeIn (above location levels) := by
  rw [candidates, ancestors, ← List.map_take, List.take_range, List.map_map]
  rfl

theorem mem_candidates_iff :
    place ∈ candidates location ↔
      ∃ levels, IsSearched location levels ∧ placeIn (above location levels) = place := by
  simp only [candidates_eq, List.mem_map, List.mem_range, isSearched_iff]

/-- The search comes to a directory after those that are nearer. -/
theorem candidates_eq_append (searched : IsSearched location levels) :
    ∃ further, candidates location =
      (List.range levels).map (fun nearer => placeIn (above location nearer)) ++
        placeIn (above location levels) :: further := by
  obtain ⟨further, rounds⟩ := Nat.exists_eq_add_of_lt (isSearched_iff.1 searched)
  rw [candidates_eq, rounds, Nat.add_assoc, List.range_add, List.range_succ_eq_map,
    List.map_append, List.map_map, List.map_cons]
  exact ⟨_, rfl⟩

/-! ## One place after the other -/

/-- Places without a file are passed over. -/
theorem firstFile_append {nearer : List (List String)}
    (empty : ∀ place ∈ nearer, isFile system place = .ok false) (further : List (List String)) :
    firstFile system (nearer ++ further) = firstFile system further := by
  induction nearer with
  | nil => rfl
  | cons place nearer induction =>
      obtain ⟨first, others⟩ := List.forall_mem_cons.1 empty
      rw [List.cons_append, firstFile, first]
      exact induction others

/-- The search ends at the first place where a file stands or that cannot be looked at. -/
theorem firstFile_candidates (searched : IsSearched location levels)
    (first : NoneNearer system location levels)
    (stops : holdsSettings system location levels ≠ .ok false) :
    firstFile system (candidates location) =
      (holdsSettings system location levels).map fun _ =>
        some (placeIn (above location levels)) := by
  obtain ⟨further, split⟩ := candidates_eq_append searched
  have empty : ∀ place ∈ (List.range levels).map (fun nearer => placeIn (above location nearer)),
      isFile system place = .ok false := by
    rw [List.forall_mem_map]
    exact fun nearer below => first nearer (List.mem_range.1 below)
  rw [split, firstFile_append empty, firstFile]
  rw [holdsSettings] at stops ⊢
  cases found : isFile system (placeIn (above location levels)) with
  | error fault => rfl
  | ok holds =>
      cases holds with
      | false => exact (stops found).elim
      | true => rfl

theorem firstFile_candidates_of_forall
    (empty : ∀ levels, IsSearched location levels →
      holdsSettings system location levels = .ok false) :
    firstFile system (candidates location) = .ok none := by
  have passed := @firstFile_append system (candidates location) (fun place member => by
    obtain ⟨levels, searched, rfl⟩ := mem_candidates_iff.1 member
    exact empty levels searched) []
  rwa [List.append_nil] at passed

/-- The search ends at some place, unless it passes over all. -/
theorem exists_stop_or_forall (system : FileSystem) (location : List String) :
    (∃ levels, IsSearched location levels ∧ NoneNearer system location levels ∧
        holdsSettings system location levels ≠ .ok false) ∨
      ∀ levels, IsSearched location levels → holdsSettings system location levels = .ok false := by
  classical
  by_cases stops :
      ∃ levels, IsSearched location levels ∧ holdsSettings system location levels ≠ .ok false
  · obtain ⟨searched, stop⟩ := Nat.find_spec stops
    refine .inl ⟨_, searched, fun nearer below => ?_, stop⟩
    have passes := Nat.find_min stops below
    by_contra other
    exact passes ⟨searched.of_le (Nat.le_of_lt below), other⟩
  · refine .inr fun levels searched => ?_
    by_contra other
    exact stops ⟨levels, searched, other⟩

/-! ## What the search finds -/

section Find

variable (here : system.resolve start = .ok location)
include here

theorem find_eq : find system start = firstFile system (candidates location) := by
  rw [find, here]
  rfl

theorem find_eq_some_iff :
    find system start = .ok (some place) ↔
      ∃ levels, IsNearest system location levels ∧ place = placeIn (above location levels) := by
  rw [find_eq here]
  constructor
  · intro found
    rcases exists_stop_or_forall system location with ⟨levels, searched, first, stops⟩ | empty
    · rw [firstFile_candidates searched first stops] at found
      cases holds : holdsSettings system location levels with
      | error fault =>
          rw [holds] at found
          cases found
      | ok held =>
          rw [holds] at found stops
          cases found
          refine ⟨levels, ⟨searched, ?_, first⟩, rfl⟩
          rw [holds, Bool.eq_true_of_not_eq_false fun same => stops (congrArg _ same)]
    · rw [firstFile_candidates_of_forall empty] at found
      cases found
  · rintro ⟨levels, ⟨searched, holds, first⟩, rfl⟩
    rw [firstFile_candidates searched first (by simp [holds]), holds]
    rfl

theorem find_eq_none_iff :
    find system start = .ok none ↔
      ∀ levels, IsSearched location levels → holdsSettings system location levels = .ok false := by
  rw [find_eq here]
  refine ⟨fun found => ?_, firstFile_candidates_of_forall⟩
  rcases exists_stop_or_forall system location with ⟨levels, searched, first, stops⟩ | empty
  · rw [firstFile_candidates searched first stops] at found
    cases holds : holdsSettings system location levels <;> rw [holds] at found <;> cases found
  · exact empty

theorem find_eq_error_iff {fault : AccessFault} :
    find system start = .error fault ↔ ∃ levels, IsBlocked system location levels fault := by
  rw [find_eq here]
  constructor
  · intro failed
    rcases exists_stop_or_forall system location with ⟨levels, searched, first, stops⟩ | empty
    · rw [firstFile_candidates searched first stops] at failed
      cases holds : holdsSettings system location levels with
      | error other =>
          rw [holds] at failed
          cases failed
          exact ⟨levels, searched, holds, first⟩
      | ok held =>
          rw [holds] at failed
          cases failed
    · rw [firstFile_candidates_of_forall empty] at failed
      cases failed
  · rintro ⟨levels, searched, blocked, first⟩
    rw [firstFile_candidates searched first (by simp [blocked]), blocked]
    rfl

/-- Two file systems give the same answer when the same settings files stand up to the nearest. -/
theorem find_congr (there : other.resolve start = .ok location)
    (agree : ∀ levels, IsSearched location levels → NoneNearer system location levels →
      holdsSettings other location levels = holdsSettings system location levels) :
    find other start = find system start := by
  rw [find_eq here, find_eq there]
  rcases exists_stop_or_forall system location with ⟨levels, searched, first, stops⟩ | empty
  · have same := agree levels searched first
    have firstOther : NoneNearer other location levels := fun nearer below => by
      rw [agree nearer (searched.of_le (Nat.le_of_lt below)) fun further smaller =>
        first further (Nat.lt_trans smaller below)]
      exact first nearer below
    rw [firstFile_candidates searched first stops,
      firstFile_candidates searched firstOther (by rwa [same]), same]
  · rw [firstFile_candidates_of_forall empty]
    refine firstFile_candidates_of_forall fun levels searched => ?_
    rw [agree levels searched fun nearer below =>
      empty nearer (searched.of_le (Nat.le_of_lt below))]
    exact empty levels searched

end Find

/-! ## Trees without links -/

theorem isEntryName_fileName : IsEntryName fileName :=
  ⟨by decide, by decide⟩

/-- A path that can be followed leads to a file, or it does not. -/
theorem isFile_eq (files : Files) (plain : ∀ name ∈ location, IsEntryName name) :
    isFile files location =
      match (Path.ofLocation location).refusal? with
      | some fault => if fault.isAbsence then .ok false else .error fault
      | none => files.root.holdsFile location := by
  have looked : files.system.look (.ofLocation location) =
      (files.find (.ofLocation location)).map FileNode.kind := rfl
  have names : (Path.ofLocation location).namesFrom files.directory = location := rfl
  rw [isFile, FileSystem.kind?, looked, Files.find_eq]
  cases (Path.ofLocation location).refusal? with
  | some fault => cases fault <;> rfl
  | none =>
      simp only [names, holdsFile_eq [] files.root plain]
      cases files.root.walk [] location with
      | ok found => cases found <;> rfl
      | error fault => cases fault <;> rfl

theorem isEntryName_placeIn_above (levels : Nat) (plain : ∀ name ∈ location, IsEntryName name) :
    ∀ name ∈ placeIn (above location levels), IsEntryName name := by
  rw [placeIn, List.forall_mem_append, List.forall_mem_singleton]
  exact ⟨fun name member => plain name (List.mem_of_mem_take member), isEntryName_fileName⟩

/-- The places of the search lie on paths that can be followed when the first one does. -/
theorem refusal?_placeIn_above (levels : Nat)
    (taken : (Path.ofLocation (placeIn location)).refusal? = none) :
    (Path.ofLocation (placeIn (above location levels))).refusal? = none :=
  Path.refusal?_of_sublist (by simp [placeIn])
    ((List.take_sublist _ _).append (List.Sublist.refl _)) taken

/-- A path that leads anywhere is resolved to the place where that stands. -/
theorem resolve_of_find {found : FileNode} (here : files.find start = .ok found) :
    files.system.resolve start = .ok (start.resolve files.directory) ∧
      (∀ name ∈ start.resolve files.directory, IsEntryName name) ∧
      files.root.descend? (start.resolve files.directory) = some found := by
  rw [Files.find_eq] at here
  split at here
  · cases here
  · next taken =>
      obtain ⟨_, route⟩ := Route.start.walk here
      refine ⟨?_, route.isEntryName, route.descend?_eq⟩
      exact if_neg (by simpa using (Path.refusal?_eq_none_iff.1 taken).1)

/-- From a directory of a tree that may be entered, the search breaks off exactly where the path of
the first place is too long. -/
theorem find_tree_eq_error_iff {entries : List (String × FileNode)} {fault : AccessFault}
    (here : files.find start = .ok (.directory entries))
    (nullFree : ∀ name ∈ start.resolve files.directory, '\x00' ∉ name.toList) :
    find files start = .error fault ↔
      fault = .nameTooLong ∧ pathLimit ≤
        (Path.ofLocation (placeIn (start.resolve files.directory))).text.utf8ByteSize := by
  obtain ⟨resolved, plain, standing⟩ := resolve_of_find here
  rw [find_eq_error_iff resolved]
  have looked (levels : Nat) : holdsSettings files (start.resolve files.directory) levels = _ :=
    isFile_eq files (isEntryName_placeIn_above levels plain)
  have first : above (start.resolve files.directory) 0 = start.resolve files.directory :=
    List.take_length
  have clean :
      '\x00' ∉ (Path.ofLocation (placeIn (start.resolve files.directory))).text.toList := by
    refine Path.nullFree_ofLocation ?_
    rw [placeIn, List.forall_mem_append, List.forall_mem_singleton]
    exact ⟨nullFree, by decide⟩
  by_cases long : pathLimit ≤
      (Path.ofLocation (placeIn (start.resolve files.directory))).text.utf8ByteSize
  · have refused : holdsSettings files (start.resolve files.directory) 0 = .error .nameTooLong := by
      rw [looked, first, Path.refusal?_eq_nameTooLong clean long]
      rfl
    constructor
    · rintro ⟨levels, searched, blocked, nearer⟩
      obtain rfl | above := Nat.eq_zero_or_pos levels
      · exact ⟨Except.error.inj (blocked.symm.trans refused), long⟩
      · cases refused.symm.trans (nearer 0 above)
    · rintro ⟨rfl, _⟩
      exact ⟨0, ⟨Nat.zero_le _, by decide⟩, refused, nofun⟩
  · have taken : (Path.ofLocation (placeIn (start.resolve files.directory))).refusal? = none :=
      Path.refusal?_eq_none_iff.2 ⟨clean, Nat.lt_of_not_le long⟩
    refine ⟨fun ⟨levels, _, blocked, _⟩ => ?_, fun ⟨_, tooLong⟩ => (long tooLong).elim⟩
    obtain ⟨holds, standing⟩ := exists_holdsFile_take standing
      ((start.resolve files.directory).length - levels) fileName
    rw [looked, refusal?_placeIn_above levels taken] at blocked
    cases blocked.symm.trans standing

/-- A place that leads to none of the places up to the nearest settings file. -/
def IsAside (system : FileSystem) (location place : List String) : Prop :=
  ∀ levels, IsSearched location levels → NoneNearer system location levels →
    ¬place <+: placeIn (above location levels)

/-- Setting or removing what stands aside makes no difference to the search. -/
theorem find_of_isAside {found : FileNode} {root : FileNode}
    (here : files.find start = .ok found)
    (aside : IsAside files (start.resolve files.directory) place)
    (changed : (∃ node, files.root.place place node = some root) ∨
      files.root.remove place = some root) :
    find ({ files with root } : Files) start = find files start := by
  obtain ⟨resolved, plain, _⟩ := resolve_of_find here
  have there : ({ files with root } : Files).system.resolve start =
      .ok (start.resolve files.directory) := resolved
  refine find_congr resolved there fun levels searched first => ?_
  have named := isEntryName_placeIn_above levels plain
  have apart := aside levels searched first
  rw [holdsSettings, holdsSettings, isFile_eq _ named, isFile_eq _ named]
  have same : root.holdsFile (placeIn (above (start.resolve files.directory) levels)) =
      files.root.holdsFile (placeIn (above (start.resolve files.directory) levels)) := by
    rcases changed with ⟨node, placed⟩ | removed
    · exact holdsFile_place placed apart
    · exact holdsFile_remove removed apart
  rw [same]

/-- From a place that a path resolves to, the search finds the settings file in the nearest of the
first twenty directories that holds one, and nothing if none does. It breaks off exactly where one
of them cannot be looked into and none nearer holds one. What stands elsewhere makes no difference,
and nothing that is set or removed aside does in a tree. -/
theorem find_outcome (here : system.resolve start = .ok location) :
    (∀ place, find system start = .ok (some place) ↔
        ∃ levels, IsNearest system location levels ∧ place = placeIn (above location levels)) ∧
      (find system start = .ok none ↔
        ∀ levels, IsSearched location levels →
          holdsSettings system location levels = .ok false) ∧
      (∀ fault, find system start = .error fault ↔
        ∃ levels, IsBlocked system location levels fault) ∧
      (∀ other : FileSystem, other.resolve start = .ok location →
        (∀ levels, IsSearched location levels → NoneNearer system location levels →
          holdsSettings other location levels = holdsSettings system location levels) →
        find other start = find system start) ∧
      ∀ (files : Files) (found root : FileNode) (place : List String), system = files →
        files.find start = .ok found → IsAside files location place →
        (∃ node, files.root.place place node = some root) ∨ files.root.remove place = some root →
          find ({ files with root } : Files) start = find files start := by
  refine ⟨fun place => find_eq_some_iff here, find_eq_none_iff here,
    fun fault => find_eq_error_iff here, fun other there agree => find_congr here there agree, ?_⟩
  rintro files found root place rfl reached aside changed
  have resolved := (resolve_of_find reached).1
  cases here.symm.trans resolved
  exact find_of_isAside reached aside changed

/-- A directory two levels below the only settings file, with a directory of its name between. -/
def nestedFiles : Files where
  root := .directory [("home", .directory [(".catalint.yaml", .file []),
    ("app", .directory [(".catalint.yaml", .directory []), ("gradle", .directory [])])])]
  directory := ["home"]

/-- The directory of the name is passed over, and a file above the nearest one does not count. -/
theorem find_outcome_nested :
    nestedFiles.system.resolve (.ofText "app/gradle") = .ok ["home", "app", "gradle"] ∧
      find nestedFiles (.ofText "app/gradle") = .ok (some ["home", ".catalint.yaml"]) ∧
      ∀ root, nestedFiles.root.place [".catalint.yaml"] (.file []) = some root →
        find ({ nestedFiles with root } : Files) (.ofText "app/gradle") =
          .ok (some ["home", ".catalint.yaml"]) := by
  have here : nestedFiles.system.resolve (.ofText "app/gradle") = .ok ["home", "app", "gradle"] :=
    rfl
  obtain ⟨found, _, _, _, stable⟩ := find_outcome here
  have first : NoneNearer nestedFiles ["home", "app", "gradle"] 2 := by
    intro nearer below
    obtain rfl | rfl : nearer = 0 ∨ nearer = 1 := by omega
    · rfl
    · rfl
  have nearest : IsNearest nestedFiles ["home", "app", "gradle"] 2 :=
    ⟨⟨by decide, by decide⟩, rfl, first⟩
  have reached := (found ["home", ".catalint.yaml"]).2 ⟨2, nearest, rfl⟩
  refine ⟨here, reached, fun root placed => ?_⟩
  rw [← reached]
  refine stable nestedFiles (.directory []) root [".catalint.yaml"] rfl rfl ?_ (.inl ⟨_, placed⟩)
  intro levels _ first
  have near : levels < 3 := by
    refine Nat.lt_of_not_le fun beyond => ?_
    cases nearest.holds.symm.trans (first 2 beyond)
  have apart : ∀ levels < 3,
      ¬[".catalint.yaml"] <+: placeIn (above ["home", "app", "gradle"] levels) := by decide
  exact apart levels near

-- no look into a locked directory, although its parent holds a settings file
example :
    find (⟨.directory [(".catalint.yaml", .file []), ("app", .locked)], []⟩ : Files)
      (.ofText "app") = .error .permissionDenied := rfl

/-! ## A path that is too long -/

/-- A name of 240 letters. -/
def longName : String :=
  String.ofList (List.replicate 240 'd')

/-- Directories with a long name, one in the other. -/
def longNames : Nat → FileNode
  | 0 => .directory []
  | depth + 1 => .directory [(longName, longNames depth)]

theorem descend?_longNames (depth count : Nat) :
    (longNames (count + depth)).descend? (List.replicate count longName) =
      some (longNames depth) := by
  induction count with
  | zero => rw [Nat.zero_add, List.replicate_zero, descend?_nil]
  | succ count induction =>
      rw [Nat.add_right_comm, List.replicate_succ, longNames, descend?_directory_cons,
        List.lookup_cons_self]
      exact induction

theorem holdsFile_longNames (depth : Nat) :
    (longNames depth).holdsFile [fileName] = .ok false := by
  have other : fileName ≠ longName := by decide +kernel
  cases depth with
  | zero => rfl
  | succ depth =>
      rw [longNames, holdsFile_cons, List.lookup_cons, beq_false_of_ne other]
      rfl

theorem toList_longName : longName.toList = List.replicate 240 'd' :=
  String.toList_ofList

theorem isEntryName_longName : IsEntryName longName :=
  ⟨by decide +kernel, by decide +kernel⟩

/-- Seventeen directories with long names below one with a settings file. -/
def deepLocation : List String :=
  "home" :: List.replicate 17 longName

/-- The innermost of these directories is the working directory. -/
def deepFiles : Files where
  root := .directory [("home", .directory [(fileName, .file []), (longName, longNames 16)])]
  directory := deepLocation

theorem isEntryName_deepLocation : ∀ name ∈ deepLocation, IsEntryName name := by
  rw [deepLocation, List.forall_mem_cons]
  refine ⟨⟨by decide, by decide⟩, fun name member => ?_⟩
  rw [List.eq_of_mem_replicate member]
  exact isEntryName_longName

theorem nullFree_deepLocation : ∀ name ∈ deepLocation, '\x00' ∉ name.toList := by
  rw [deepLocation, List.forall_mem_cons]
  refine ⟨by decide, fun name member null => ?_⟩
  rw [List.eq_of_mem_replicate member, toList_longName] at null
  have drawn := List.eq_of_mem_replicate null
  cases drawn

theorem above_deepLocation (below : levels < 17) :
    above deepLocation levels = "home" :: longName :: List.replicate (16 - levels) longName := by
  have fewer : 17 + 1 - levels = 16 - levels + 1 + 1 := by omega
  rw [above, deepLocation, List.length_cons, List.length_replicate, fewer, List.take_succ_cons,
    List.take_replicate, Nat.min_eq_left (by omega), List.replicate_succ]

theorem descend?_deep (below : levels < 17) :
    deepFiles.root.descend? (above deepLocation levels) = some (longNames levels) := by
  have other : (longName == fileName) = false := by decide +kernel
  have parts : longNames 16 = longNames (16 - levels + levels) := by
    rw [Nat.sub_add_cancel (Nat.le_of_lt_succ below)]
  rw [above_deepLocation below, deepFiles, descend?_directory_cons, List.lookup_cons_self,
    Option.bind_some, descend?_directory_cons, List.lookup_cons, other]
  dsimp only
  rw [List.lookup_cons_self, Option.bind_some, parts, descend?_longNames]

/-- The working directory, when it stands in the tree. -/
theorem find_dot {found : FileNode} (plain : ∀ name ∈ files.directory, IsEntryName name)
    (reached : files.root.descend? files.directory = some found) :
    files.find (.ofText ".") = .ok found := by
  have names : (Path.ofText ".").namesFrom files.directory = files.directory :=
    List.append_nil _
  have taken : (Path.ofText ".").refusal? = none := by decide
  rw [Files.find_eq, taken]
  dsimp only
  rw [names, walk_of_descend? plain reached]

theorem resolve_dot (directory : List String) (plain : ∀ name ∈ directory, IsEntryName name) :
    (Path.ofText ".").resolve directory = directory := by
  have folded : ∀ location,
      directory.foldl Path.stepLexically location = location ++ directory := by
    induction directory with
    | nil => simp
    | cons name names induction =>
        obtain ⟨first, others⟩ := List.forall_mem_cons.1 plain
        intro location
        rw [List.foldl_cons, Path.stepLexically, if_neg first.notDots, induction others,
          List.append_assoc, List.singleton_append]
  have names : (Path.ofText ".").namesFrom directory = directory := List.append_nil _
  rw [Path.resolve, names, folded, List.nil_append]

theorem pathLimit_le_deep :
    pathLimit ≤ (Path.ofLocation (placeIn deepLocation)).text.utf8ByteSize := by
  have size : longName.utf8ByteSize = 240 := by decide +kernel
  rw [Path.utf8ByteSize_text_ofLocation (by simp [placeIn]), placeIn, deepLocation, List.map_append,
    List.map_cons, List.map_replicate, size]
  decide

/-- The search breaks off in a directory whose path is too long, although a settings file stands in
one of the twenty directories to be searched, and none in a nearer one. -/
theorem find_deep :
    deepFiles.system.resolve (.ofText ".") = .ok deepLocation ∧
      IsSearched deepLocation 17 ∧
      deepFiles.root.holdsFile (placeIn (above deepLocation 17)) = .ok true ∧
      (∀ nearer < 17, deepFiles.root.holdsFile (placeIn (above deepLocation nearer)) = .ok false) ∧
      find deepFiles (.ofText ".") = .error .nameTooLong := by
  have whole : above deepLocation 0 = deepLocation := List.take_length
  have standing := @descend?_deep 0 (by decide)
  rw [whole] at standing
  have here := @find_dot deepFiles _ isEntryName_deepLocation standing
  have same : (Path.ofText ".").resolve deepFiles.directory = deepLocation :=
    resolve_dot deepLocation isEntryName_deepLocation
  have failed := @find_tree_eq_error_iff deepFiles _ _ .nameTooLong here
    (by rw [same]; exact nullFree_deepLocation)
  rw [same] at failed
  refine ⟨same ▸ (resolve_of_find here).1, ⟨by decide, by decide⟩, ?_, fun nearer below => ?_,
    failed.2 ⟨rfl, pathLimit_le_deep⟩⟩
  · have top : above deepLocation 17 = ["home"] := by
      rw [above, deepLocation, List.length_cons, List.length_replicate]
      rfl
    rw [top]
    rfl
  · rw [placeIn, holdsFile_append (descend?_deep below)]
    exact holdsFile_longNames nearer

end Settings

end VersionCatalog
