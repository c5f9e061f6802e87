import Mathlib.Logic.Basic
import VersionCatalog.Files.Tree
import VersionCatalog.Settings.File

/-!
# Which settings are found

A settings file is a mapping from data to data, whichever library loads it. Its keys that name no
settings are listed in a warning, for which they have to be texts; they make no difference
otherwise. `resolve_outcome` says that then either settings are found, or a value that is not among
the choices is reported, or a value cannot be written: it holds an integer that is too long, or
lists that are nested too deeply for the call stack.
-/

namespace VersionCatalog.Settings

variable {system : FileSystem} {environment : Environment} {start : Option Path} {given : Given}
variable {file : List (Datum × Datum)} {source : Option String} {key : String} {datum : Datum}

/-! ## Keys that name no settings -/

/-- Whether a key names a setting. -/
def isSetting (key : Datum) : Bool :=
  defaults.any fun setting => key.sameKey (.text setting.1)

/-- The pairs of a settings file whose keys name settings. -/
def onlySettings (file : List (Datum × Datum)) : List (Datum × Datum) :=
  file.filter fun pair => isSetting pair.1

/-- All keys of a settings file are texts. -/
def AllNamed (file : List (Datum × Datum)) : Prop :=
  ∀ pair ∈ file, ∃ name, pair.1 = .text name

theorem sameKey_text_iff {key : Datum} {name : String} :
    key.sameKey (.text name) = true ↔ key = .text name := by
  cases key <;> simp [Datum.sameKey, Datum.integer?]

theorem isSetting_iff {key : Datum} :
    isSetting key = true ↔ ∃ setting ∈ defaults, key = .text setting.1 := by
  simp only [isSetting, List.any_eq_true, sameKey_text_iff]

theorem allNamed_nil : AllNamed [] :=
  nofun

theorem keyTexts?_eq_none_iff {keys : List Datum} :
    keyTexts? keys = none ↔ ¬∀ key ∈ keys, ∃ name, key = .text name := by
  induction keys with
  | nil => simp [keyTexts?]
  | cons key keys induction =>
      cases key with
      | text name => simp [keyTexts?, induction]
      | _ => simp [keyTexts?]

/-- The keys that name no settings can be listed exactly when all keys are texts. -/
theorem unknownKeys?_eq_none_iff : unknownKeys? file = none ↔ ¬AllNamed file := by
  have unknown : unknownKeys? file = none ↔
      keyTexts? ((file.map Prod.fst).filter fun key => !isSetting key) = none := by
    simp only [unknownKeys?, Option.map_eq_none_iff]
    rfl
  rw [unknown, keyTexts?_eq_none_iff, not_iff_not]
  simp only [List.mem_filter, Bool.not_eq_true']
  constructor
  · intro named pair member
    -- A key that names a setting is a text, so that only the others had to be looked at.
    by_cases setting : isSetting pair.1 = true
    · obtain ⟨entry, _, same⟩ := isSetting_iff.1 setting
      exact ⟨entry.1, same⟩
    · exact named pair.1 ⟨List.mem_map_of_mem member, by simpa using setting⟩
  · rintro named key ⟨member, _⟩
    obtain ⟨pair, within, rfl⟩ := List.mem_map.1 member
    exact named pair within

theorem valueOf?_onlySettings (known : key ∈ defaults.map Prod.fst)
    (file : List (Datum × Datum)) :
    Datum.valueOf? key (onlySettings file) = Datum.valueOf? key file := by
  induction file with
  | nil => rfl
  | cons pair file induction =>
      obtain ⟨name, found⟩ := pair
      rw [onlySettings, List.filter_cons, Datum.valueOf?]
      by_cases same : name.sameKey (.text key) = true
      · obtain ⟨setting, member, rfl⟩ := List.mem_map.1 known
        have kept : isSetting name = true :=
          isSetting_iff.2 ⟨setting, member, sameKey_text_iff.1 same⟩
        rw [if_pos kept, Datum.valueOf?, if_pos same, if_pos same]
      · rw [if_neg same, ← induction, onlySettings]
        split
        · rw [Datum.valueOf?, if_neg same]
        · rfl

theorem value_onlySettings (known : key ∈ defaults.map Prod.fst) :
    value key datum environment (onlySettings file) = value key datum environment file := by
  simp only [value, valueOf?_onlySettings known]

/-- Keys that name no settings make no difference to the settings. -/
theorem combine_onlySettings [CallStack] :
    combine given environment (onlySettings file) source =
      combine given environment file source := by
  have scope : "key_scope" ∈ defaults.map Prod.fst := by simp [defaults]
  have strict : "strict" ∈ defaults.map Prod.fst := by simp [defaults]
  have format : "format" ∈ defaults.map Prod.fst := by simp [defaults]
  simp only [combine, value_onlySettings scope, value_onlySettings strict,
    value_onlySettings format]

/-! ## Values of settings -/

/-- The words for a truth value. -/
def boolWords : Bool → List String
  | true => trueWords
  | false => falseWords

/-- The truth value that a word stands for. -/
def boolOfWord? (word : String) : Option Bool :=
  [true, false].find? fun choice => (boolWords choice).contains word

theorem boolOfWord?_eq (word : String) :
    boolOfWord? word =
      if trueWords.contains word then some true
      else if falseWords.contains word then some false else none := by
  simp only [boolOfWord?, boolWords, List.find?]
  cases trueWords.contains word with
  | true => rfl
  | false => cases falseWords.contains word <;> rfl

/-- A word that is found among names is the name of what is found. -/
theorem name_of_find? {α : Type} {all : List α} {name : α → String} {word : String} {choice : α}
    (known : (all.find? fun choice => name choice == word) = some choice) :
    word = name choice := by
  have same := List.find?_some known
  exact (beq_iff_eq.1 same).symm

theorem notMem_names_of_find? {α : Type} {all : List α} {name : α → String} {word : String}
    (other : (all.find? fun choice => name choice == word) = none) : word ∉ all.map name := by
  rw [List.find?_eq_none] at other
  intro member
  obtain ⟨choice, within, same⟩ := List.mem_map.1 member
  exact other choice within (beq_iff_eq.2 same)

theorem mem_boolWords {word : String} {choice : Bool} (known : boolOfWord? word = some choice) :
    word ∈ boolWords choice := by
  rw [boolOfWord?] at known
  have member := List.find?_some known
  exact List.contains_iff_mem.1 member

theorem notMem_boolWords {word : String} (other : boolOfWord? word = none) (choice : Bool) :
    word ∉ boolWords choice := by
  rw [boolOfWord?, List.find?_eq_none] at other
  intro member
  exact other choice (by cases choice <;> simp) (List.contains_iff_mem.2 member)

/-- The values that the settings are read from. -/
def Given.settled (given : Given) (environment : Environment) (file : List (Datum × Datum)) :
    Given where
  scope := value "key_scope" given.scope environment file
  strict := value "strict" given.strict environment file
  format := value "format" given.format environment file

/-- Settings are what the values mean. -/
structure Given.Means (values : Given) (settings : Settings) : Prop where
  scope : normalized values.scope = settings.scope.name
  strict : normalized values.strict ∈ boolWords settings.strict
  format : normalized values.format = settings.format.name

/-- The failures that report a value which is not among the choices. -/
inductive Given.Fails (values : Given) : Failure → Prop where
  | scope (other : normalized values.scope ∉ KeyScope.names) :
      Fails values (.invalidSetting "key_scope" values.scope KeyScope.names)
  | strict (other : ∀ choice, normalized values.strict ∉ boolWords choice) :
      Fails values (.invalidSetting "strict" values.strict ["true", "false"])
  | format (other : normalized values.format ∉ OutputFormat.names) :
      Fails values (.invalidSetting "format" values.format OutputFormat.names)

section CallStack

variable [CallStack]

/-- Truth values are read as choices are. -/
theorem readBool_eq (key : String) (datum : Datum) :
    readBool key datum = readChoice boolOfWord? ["true", "false"] key datum := by
  cases datum with
  | bool choice => cases choice <;> rfl
  | _ =>
      simp only [readBool, readChoice, boolOfWord?_eq]
      split
      · rfl
      · split
        · rfl
        · split <;> rfl

/-- Nothing stands in the way of writing the values. -/
structure Given.Writable (values : Given) : Prop where
  scope : values.scope.obstacle? = none
  strict : values.strict.obstacle? = none
  format : values.format.obstacle? = none

/-- Something stands in the way of writing one of the values. -/
inductive Given.Obstructed (values : Given) (obstacle : Obstacle) : Prop where
  | scope (met : values.scope.obstacle? = some obstacle)
  | strict (met : values.strict.obstacle? = some obstacle)
  | format (met : values.format.obstacle? = some obstacle)

/-- What reading settings from values comes to. -/
inductive Outcome (values : Given) (source : Option String) : Except Breakdown Settings → Prop where
  /-- Settings are found. -/
  | found {settings : Settings} (writable : values.Writable) (means : values.Means settings)
      (kept : settings.source = source) : Outcome values source (.ok settings)
  /-- A value is reported. -/
  | failed {failure : Failure} (fails : values.Fails failure) :
      Outcome values source (.error (.failure failure))
  /-- A value cannot be written. -/
  | unwritten {obstacle : Obstacle} (obstructed : values.Obstructed obstacle) :
      Outcome values source (.error obstacle.breakdown)

section

variable {α : Type} {values : Given} {ofName? : String → Option α} {choices : List String}

/-- Reading a setting goes on after a choice, and breaks off at any other value. -/
theorem Outcome.readChoice_bind {next : α → Except Breakdown Settings}
    (fails : ofName? (normalized datum) = none → values.Fails (.invalidSetting key datum choices))
    (obstructed : ∀ {obstacle}, datum.obstacle? = some obstacle → values.Obstructed obstacle)
    (goesOn : ∀ choice, datum.obstacle? = none → ofName? (normalized datum) = some choice →
      Outcome values source (next choice)) :
    Outcome values source ((readChoice ofName? choices key datum).bind next) := by
  unfold readChoice
  split
  · next obstacle met => exact .unwritten (obstructed met)
  · next writable =>
      split
      · next choice known => exact goesOn choice writable known
      · next other => exact .failed (fails other)

end

/-- Reading settings finds them, or reports a value, or breaks off at one that cannot be written. -/
theorem combine_outcome :
    Outcome (given.settled environment file) source (combine given environment file source) := by
  rw [combine, readBool_eq]
  refine .readChoice_bind (fun other => .scope (notMem_names_of_find? other))
    (fun met => .scope met)
    fun scope scopeWritable scopeKnown => ?_
  refine .readChoice_bind (fun other => .strict (notMem_boolWords other)) (fun met => .strict met)
    fun strict strictWritable strictKnown => ?_
  refine .readChoice_bind (fun other => .format (notMem_names_of_find? other))
    (fun met => .format met)
    fun format formatWritable formatKnown => ?_
  exact .found ⟨scopeWritable, strictWritable, formatWritable⟩
    ⟨name_of_find? scopeKnown, mem_boolWords strictKnown, name_of_find? formatKnown⟩ rfl

end CallStack

/-! ## Settings files -/

section File

variable [Yaml.Library]

/-- What a settings file says, and its path. Without a file, nothing is said. -/
inductive Provides (system : FileSystem) :
    Option Path → List (Datum × Datum) → Option String → Prop where
  /-- No file is looked for. -/
  | unsought : Provides system none [] none
  /-- No file is found. -/
  | absent {start : Path} (missing : find system start = .ok none) :
      Provides system (some start) [] none
  | file {start : Path} {location : List String} {file : List (Datum × Datum)}
      (found : find system start = .ok (some location))
      (loaded : load system (.ofLocation location) = .ok file) :
      Provides system (some start) file (some (Path.ofLocation location).text)

/-- A file that can be read as text, and whose text is a mapping, says what the mapping does. -/
theorem load_mapping {path : Path} {kind : FileKind} {content : List UInt8} {text : List Char}
    (stands : system.kind? path = .ok (some kind)) (read : system.read path = .ok content)
    (decoded : Text.Utf8.decode content = .ok text)
    (visible : Text.isBlankText (joinLineEnds text) = false)
    (mapping : Yaml.Library.load (joinLineEnds text) = .ok (.mapping file)) :
    load system path = .ok file := by
  simp [load, stands, read, decoded, readText, visible, mapping]

variable [CallStack]

theorem resolve_eq_combine (provides : Provides system start file source)
    (named : AllNamed file) :
    (resolve system environment start given).2 = combine given environment file source := by
  cases provides with
  | unsought => rfl
  | absent missing => simp [resolve, missing]
  | file found loaded =>
      obtain ⟨unknown, listed⟩ := Option.ne_none_iff_exists'.1
        (mt unknownKeys?_eq_none_iff.1 (not_not_intro named))
      simp [resolve, found, loaded, listed]

theorem resolve_eq_unnamed (provides : Provides system start file source)
    (unnamed : ¬AllNamed file) :
    (resolve system environment start given).2 = .error .unnamedKeys := by
  cases provides with
  | unsought => exact (unnamed allNamed_nil).elim
  | absent _ => exact (unnamed allNamed_nil).elim
  | file found loaded => simp [resolve, found, loaded, unknownKeys?_eq_none_iff.2 unnamed]

/-- Where all keys of the settings file are texts, settings are found or a value is reported, and
the keys that name no settings make no difference. Where one is not, they cannot be listed. -/
theorem resolve_outcome (provides : Provides system start file source) :
    (AllNamed file →
        Outcome (given.settled environment (onlySettings file)) source
            (resolve system environment start given).2 ∧
          (resolve system environment start given).2 =
            combine given environment (onlySettings file) source) ∧
      (¬AllNamed file → (resolve system environment start given).2 = .error .unnamedKeys) := by
  constructor
  · intro named
    have same : (resolve system environment start given).2 =
        combine given environment (onlySettings file) source :=
      (resolve_eq_combine provides named).trans combine_onlySettings.symm
    refine ⟨?_, same⟩
    rw [same]
    exact combine_outcome
  · exact resolve_eq_unnamed provides

end File

/-- A tree with a settings file in its working directory. -/
def treeWith (content : List UInt8) : Files :=
  ⟨.directory [("work", .directory [(fileName, .file content)])], ["work"]⟩

open scoped CallStack Yaml.Library

theorem provides_treeWith {content : List UInt8} {text : List Char}
    (decoded : Text.Utf8.decode content = .ok text)
    (visible : Text.isBlankText (joinLineEnds text) = false)
    (mapping : Yaml.read (joinLineEnds text) = .ok (.mapping file)) :
    Provides (treeWith content) (some (.ofText ".")) file (some "/work/.catalint.yaml") := by
  have here : isFile (treeWith content) ["work", fileName] = .ok true := rfl
  have places : candidates ["work"] = [["work", fileName], [fileName]] := rfl
  have resolved : (treeWith content).system.resolve (.ofText ".") = .ok ["work"] := rfl
  have found : find (treeWith content) (.ofText ".") = .ok (some ["work", fileName]) := by
    simp only [find, resolved, bind, Except.bind, places, firstFile, here]
    rfl
  have loaded : Yaml.Library.load (joinLineEnds text) = .ok (.mapping file) := by
    change (Yaml.read (joinLineEnds text)).mapError _ = _
    rw [mapping]
    rfl
  have stands : (treeWith content).system.kind? (.ofLocation ["work", fileName]) =
      .ok (some .file) := rfl
  exact .file found (load_mapping stands rfl decoded visible loaded)

/-- Settings come from the command line, from the environment, and from a file that says `a: 1`
below `format: JSON`. -/
theorem resolve_unknown_text :
    (resolve
      (treeWith [0x66, 0x6f, 0x72, 0x6d, 0x61, 0x74, 0x3a, 0x20, 0x4a, 0x53, 0x4f, 0x4e, 0x0a,
        0x61, 0x3a, 0x20, 0x31])
      [("CATALINT_STRICT", " Yes")] (some (.ofText ".")) ⟨.text "document", .null, .null⟩).2 =
        .ok ⟨.document, true, .json, some "/work/.catalint.yaml"⟩ := by
  have tokens : Yaml.tokens (joinLineEnds "format: JSON\na: 1".toList) =
      [.blockMappingStart, .key, .word "format", .value, .word "JSON", .key, .word "a", .value,
        .word "1", .blockEnd] := by
    decide +kernel
  have mapping : Yaml.read (joinLineEnds "format: JSON\na: 1".toList) =
      .ok (.mapping [(.text "format", .text "JSON"), (.text "a", .integer 1)]) := by
    rw [Yaml.read, tokens]
    rfl
  have named : AllNamed [(.text "format", .text "JSON"), (.text "a", .integer 1)] := by
    simp [AllNamed]
  exact ((resolve_outcome (provides_treeWith rfl rfl mapping)).1 named).2.trans rfl

/-- In a file that says `1: x`, the key is a number and cannot be listed among those that are passed
over. -/
theorem resolve_unknown_number :
    Yaml.read "1: x".toList = .ok (.mapping [(.integer 1, .text "x")]) ∧
      (resolve (treeWith [0x31, 0x3a, 0x20, 0x78]) [] (some (.ofText "."))
        ⟨.null, .null, .null⟩).2 = .error .unnamedKeys := by
  have tokens : Yaml.tokens "1: x".toList =
      [.blockMappingStart, .key, .word "1", .value, .word "x", .blockEnd] := by
    decide +kernel
  have mapping : Yaml.read "1: x".toList = .ok (.mapping [(.integer 1, .text "x")]) := by
    rw [Yaml.read, tokens]
    rfl
  exact ⟨mapping, resolve_eq_unnamed (provides_treeWith rfl rfl mapping) (by simp [AllNamed])⟩

end VersionCatalog.Settings
