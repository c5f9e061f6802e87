import Mathlib.Data.List.Induction
import VersionCatalog.CommandLine.Command

/-!
# Words that ask for a check

A check can be asked for with any of its options, in any order and as often as one likes, and with
any catalog: one that is left out, one whose name cannot be taken for an option, or any one after
two hyphens. `ReadsChecks` says what a library makes of such words, whichever format stands before
them: the request that is meant, unless the catalog may not be read. The library that comes with the
program does so (`readsChecks_usual`).
-/

namespace VersionCatalog.CommandLine

/-! ## Options one by one -/

section Parse

variable {specs : List OptionSpec} {argumentsEnd : Bool} {word : String} {spec : OptionSpec}

/-- A word that is an option is read with the words after it, unless it takes a value. -/
theorem parse_flag (hyphened : word.startsWith "-" = true) (named : word ≠ "-" ∧ word ≠ "--")
    (whole : splitOption word = (word, none))
    (found : specs.find? (fun spec => spec.name == word) = some spec)
    (flag : spec.takesValue = false) (words : List String) :
    parse specs argumentsEnd (word :: words) =
      (parse specs argumentsEnd words).map (Parsed.addOption word "") := by
  simp [parse, hyphened, named, whole, found, flag]

theorem parse_valued (hyphened : word.startsWith "-" = true) (named : word ≠ "-" ∧ word ≠ "--")
    (whole : splitOption word = (word, none))
    (found : specs.find? (fun spec => spec.name == word) = some spec)
    (valued : spec.takesValue = true) (value : String) (words : List String) :
    parse specs argumentsEnd (word :: value :: words) =
      (parse specs argumentsEnd words).map (Parsed.addOption word value) := by
  simp [parse, hyphened, named, whole, found, valued]

/-- Words for a part of the program are read unless they ask for help or for the version. -/
theorem readPart_of_parse {part : Part} {words : List String} {parsed : Parsed}
    (read : parse part.options part.argumentsEnd words = .ok parsed)
    (unasked : parsed.first? ["--version", "--help"] = none) :
    readPart part words = .ok parsed := by
  simp only [readPart, read, Except.mapError, bind, Except.bind, unasked]
  rfl

end Parse

/-- An option of a check. -/
inductive CheckOption where
  /-- Whether warnings make the check fail. -/
  | strict (on : Bool)
  /-- The scope of the checks. -/
  | scope (kind : KeyScope)
  /-- Whether hints are shown. -/
  | hints (on : Bool)

namespace CheckOption

/-- The name of an option with its value, which is empty for an option without one. -/
def entry : CheckOption → String × String
  | strict true => ("--strict", "")
  | strict false => ("--no-strict", "")
  | scope kind => ("--key-scope", kind.name)
  | hints true => ("--hints", "")
  | hints false => ("--no-hints", "")

def words : CheckOption → List String
  | scope kind => ["--key-scope", kind.name]
  | option => [option.entry.1]

def strict? : CheckOption → Option Bool
  | strict on => some on
  | _ => none

def scope? : CheckOption → Option KeyScope
  | scope kind => some kind
  | _ => none

def hints? : CheckOption → Option Bool
  | hints on => some on
  | _ => none

def names : List String :=
  ["--strict", "--no-strict", "--key-scope", "--hints", "--no-hints"]

theorem entry_mem_names (option : CheckOption) : option.entry.1 ∈ names := by
  cases option with
  | strict on => cases on <;> decide
  | scope kind => simp [entry, names]
  | hints on => cases on <;> decide

theorem parse_words_append (option : CheckOption) (rest : List String) :
    parse Part.check.options false (option.words ++ rest) =
      (parse Part.check.options false rest).map
        (Parsed.addOption option.entry.1 option.entry.2) := by
  cases option with
  | strict on => cases on <;> exact parse_flag (by simp [entry]) (by decide) rfl rfl rfl rest
  | scope kind => exact parse_valued (by simp) (by decide) rfl rfl rfl kind.name rest
  | hints on => cases on <;> exact parse_flag (by simp [entry]) (by decide) rfl rfl rfl rest

end CheckOption

/-- The words that name a catalog. -/
inductive CatalogWords where
  /-- None, for the catalog at the usual place. -/
  | omitted
  /-- A word that cannot be taken for an option. -/
  | plain (path : String) (unhyphened : (!path.startsWith "-" || path == "-") = true)
  /-- Any word, after the two hyphens that end the options. -/
  | guarded (path : String)

namespace CatalogWords

def words : CatalogWords → List String
  | omitted => []
  | plain path _ => [path]
  | guarded path => ["--", path]

/-- The path that is looked at. -/
def path : CatalogWords → String
  | omitted => defaultPath
  | plain path _ => path
  | guarded path => path

/-- The arguments that are left of the words. -/
def arguments : CatalogWords → List String
  | omitted => []
  | plain path _ => [path]
  | guarded path => [path]

theorem parse_words (catalog : CatalogWords) :
    parse Part.check.options false catalog.words = .ok ⟨[], catalog.arguments⟩ := by
  cases catalog with
  | omitted => rfl
  | plain path unhyphened =>
      have named : path ≠ "--" := by
        rintro rfl
        simp at unhyphened
      rw [words, parse, if_neg named, if_pos unhyphened]
      rfl
  | guarded path => rfl

end CatalogWords

/-- The same request with a format that is asked for. -/
def CheckRequest.withFormat (request : CheckRequest) (format : OutputFormat) : CheckRequest :=
  { request with format := some format }

/-- What is asked for besides the format. -/
structure CheckWords where
  options : List CheckOption
  catalog : CatalogWords
  nullFree : '\x00' ∉ catalog.path.toList

namespace CheckWords

/-- The words after the name of the command. -/
def rest (asked : CheckWords) : List String :=
  asked.options.flatMap CheckOption.words ++ asked.catalog.words

/-- The words that ask for a check in a format. -/
def words (asked : CheckWords) (format : OutputFormat) : List String :=
  "--format" :: format.name :: "check" :: asked.rest

/-- The request that is meant, in which the last of several options decides. -/
def request (asked : CheckWords) : CheckRequest where
  path := .ofText asked.catalog.path
  format := none
  strict := (asked.options.filterMap CheckOption.strict?).getLast?
  scope := (asked.options.filterMap CheckOption.scope?).getLast?
  hints := (asked.options.filterMap CheckOption.hints?).getLast?.getD true
  recordLevel := .warning

/-- What the words after the name of the command are read as. -/
def parsed (asked : CheckWords) : Parsed :=
  ⟨asked.options.map CheckOption.entry, asked.catalog.arguments⟩

theorem parse_rest (asked : CheckWords) :
    parse Part.check.options false asked.rest = .ok asked.parsed := by
  rw [rest, parsed]
  induction asked.options with
  | nil => exact asked.catalog.parse_words
  | cons option options induction =>
      rw [List.flatMap_cons, List.append_assoc, option.parse_words_append, induction]
      rfl

variable (asked : CheckWords)

theorem first?_parsed : asked.parsed.first? ["--version", "--help"] = none := by
  have unasked : ∀ name ∈ CheckOption.names, ¬["--version", "--help"].contains name = true := by
    decide
  rw [Parsed.first?, List.find?_eq_none]
  simp only [parsed, List.map_map, List.forall_mem_map]
  exact fun option _ => unasked _ option.entry_mem_names

theorem count_parsed : asked.parsed.count "--json" = 0 := by
  have unasked : ∀ name ∈ CheckOption.names, ¬(name == "--json") = true := by
    decide
  rw [Parsed.count, List.length_eq_zero_iff, List.filter_eq_nil_iff]
  simp only [parsed, List.forall_mem_map]
  exact fun option _ => unasked _ option.entry_mem_names

theorem value?_parsed :
    asked.parsed.value? "--key-scope" =
      (asked.options.filterMap CheckOption.scope?).getLast?.map KeyScope.name := by
  rw [Parsed.value?, parsed]
  induction asked.options using List.reverseRecOn with
  | nil => rfl
  | append_singleton options last induction =>
      rw [List.map_append, List.reverse_append, List.filterMap_append]
      cases last with
      | strict on =>
          cases on <;>
            simpa [CheckOption.entry, CheckOption.scope?, List.lookup_cons] using induction
      | scope kind => simp [CheckOption.entry, CheckOption.scope?]
      | hints on =>
          cases on <;>
            simpa [CheckOption.entry, CheckOption.scope?, List.lookup_cons] using induction

/-- Of two opposite options the last one decides. -/
theorem switch?_parsed {on off : String} {decided? : CheckOption → Option Bool}
    (opposite : on ≠ off)
    (decides : ∀ option : CheckOption, decided? option =
      if option.entry.1 = on then some true
      else if option.entry.1 = off then some false else none) :
    asked.parsed.switch? on off = (asked.options.filterMap decided?).getLast? := by
  rw [Parsed.switch?, parsed]
  induction asked.options using List.reverseRecOn with
  | nil => rfl
  | append_singleton options last induction =>
      rw [List.map_append, List.map_append, List.filter_append, List.filterMap_append]
      by_cases isOn : last.entry.1 = on
      · simp [decides, isOn]
      · by_cases isOff : last.entry.1 = off
        · simp [decides, isOff, Ne.symm opposite]
        · simpa [decides, isOn, isOff] using induction

theorem strict_parsed :
    asked.parsed.switch? "--strict" "--no-strict" =
      (asked.options.filterMap CheckOption.strict?).getLast? := by
  refine asked.switch?_parsed (by decide) fun option => ?_
  cases option with
  | strict on => cases on <;> rfl
  | scope kind => rfl
  | hints on => cases on <;> rfl

theorem hints_parsed :
    asked.parsed.switch? "--hints" "--no-hints" =
      (asked.options.filterMap CheckOption.hints?).getLast? := by
  refine asked.switch?_parsed (by decide) fun option => ?_
  cases option with
  | strict on => cases on <;> rfl
  | scope kind => rfl
  | hints on => cases on <;> rfl

theorem arguments_parsed :
    asked.parsed.arguments.head?.getD defaultPath = asked.catalog.path ∧
      asked.parsed.arguments.drop 1 = [] := by
  rw [parsed]
  cases asked.catalog <;> exact ⟨rfl, rfl⟩

/-! ## Whole command lines -/

theorem readPreamble_words (format : OutputFormat) (rest : List String) :
    readPreamble ("--format" :: format.name :: "check" :: rest) =
      .ok ⟨some format, .warning, "check" :: rest⟩ := by
  have command : parse Part.program.options true ("check" :: rest) = .ok ⟨[], "check" :: rest⟩ := by
    simp [parse]
  have whole : parse Part.program.options true ("--format" :: format.name :: "check" :: rest) =
      .ok ⟨[("--format", format.name)], "check" :: rest⟩ := by
    rw [parse_valued (by simp) (by decide) rfl rfl rfl, command]
    rfl
  rw [readPreamble, @readPart_of_parse .program _ _ whole rfl]
  cases format <;> rfl

theorem readCheck_rest (system : FileSystem) (preamble : Preamble) :
    readCheck system preamble asked.rest =
      if system.isBarred asked.catalog.path then
        .error (.refusal .check (.unreadableArgument "[PATH]" asked.catalog.path))
      else .ok { asked.request with
        format := preamble.format
        recordLevel := preamble.recordLevel } := by
  have part : readPart .check asked.rest = .ok asked.parsed :=
    readPart_of_parse asked.parse_rest asked.first?_parsed
  have scope : choice? .check asked.parsed "--key-scope" KeyScope.names KeyScope.ofName? =
      .ok (asked.options.filterMap CheckOption.scope?).getLast? := by
    rw [choice?, value?_parsed]
    cases (asked.options.filterMap CheckOption.scope?).getLast? with
    | none => rfl
    | some kind => cases kind <;> rfl
  have nullFree : asked.catalog.path.toList.contains '\x00' = false := by
    simpa using asked.nullFree
  rw [readCheck, part]
  simp only [bind, Except.bind, scope, arguments_parsed, nullFree, count_parsed, strict_parsed,
    hints_parsed]
  cases system.isBarred asked.catalog.path with
  | true => rfl
  | false => rfl

theorem read_words (system : FileSystem) (format : OutputFormat) :
    read system (asked.words format) =
      readCheck system ⟨some format, .warning, "check" :: asked.rest⟩ asked.rest := by
  have preamble := readPreamble_words format asked.rest
  rw [read, words, preamble]
  rfl

end CheckWords

/-- A library reads words that ask for a check as the request that is meant, and refuses those that
name a catalog which may not be read. -/
structure ReadsChecks (library : Library) : Prop where
  accepted (system : FileSystem) (asked : CheckWords) (format : OutputFormat)
    (readable : system.isBarred asked.catalog.path = false) :
    library.read system (asked.words format) = .ok (asked.request.withFormat format)
  refused (system : FileSystem) (asked : CheckWords) (format : OutputFormat)
    (barred : system.isBarred asked.catalog.path = true) :
    ∃ fault, library.read system (asked.words format) = .error (.refusal .check fault)

theorem readsChecks_usual : ReadsChecks .usual where
  accepted system asked format readable := by
    change read system (asked.words format) = _
    rw [asked.read_words, asked.readCheck_rest, if_neg (by simp [readable])]
    rfl
  refused system asked format barred := by
    refine ⟨.unreadableArgument "[PATH]" asked.catalog.path, ?_⟩
    change read system (asked.words format) = _
    rw [asked.read_words, asked.readCheck_rest, if_pos barred]

end VersionCatalog.CommandLine
