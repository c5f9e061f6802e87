import VersionCatalog.CommandLine.Similarity
import VersionCatalog.Text.Quoted

/-!
# Options

The words of a command line are options and arguments. An option begins with hyphens; its value is
the next word or follows an equals sign. Two hyphens alone end the options.
-/

namespace VersionCatalog.CommandLine

/-- An option of a command. -/
structure OptionSpec where
  name : String
  /-- The letter of its short form, if it has one. -/
  short : Option Char
  /-- Whether it takes a value. -/
  takesValue : Bool

/-- A command line that cannot be understood. -/
structure UsageFault where
  /-- Whether the usage of the command is shown too. -/
  showsUsage : Bool
  message : String
deriving DecidableEq, Repr

def quotedWord (word : String) : String :=
  String.ofList (Text.quoted word.toList)

/-- Words between quotes with commas between. -/
def quotedWords (words : List String) : String :=
  ", ".intercalate (words.map quotedWord)

/-- A message with what may have been meant. -/
def withSuggestions (message : String) (suggestions : List String) : String :=
  match suggestions with
  | [] => message
  | [suggestion] => s!"{message} Did you mean {quotedWord suggestion}?"
  | _ => s!"{message} (Did you mean one of: {quotedWords suggestions}?)"

namespace UsageFault

/-- An option that does not exist. -/
def unknownOption (name : String) (suggestions : List String) : UsageFault :=
  ⟨true, withSuggestions s!"No such option {quotedWord name}." suggestions⟩

/-- An option whose value is left out. -/
def missingValue (name : String) : UsageFault :=
  ⟨false, s!"Option {quotedWord name} requires an argument."⟩

/-- A value for an option that takes none. -/
def needlessValue (name : String) : UsageFault :=
  ⟨false, s!"Option {quotedWord name} does not take a value."⟩

/-- A value that is not among the choices. -/
def invalidChoice (name value : String) (choices : List String) : UsageFault :=
  ⟨true, s!"Invalid value for '{name}': {quotedWord value} is not one of {quotedWords choices}."⟩

/-- An argument that leads to something which may not be read. -/
def unreadableArgument (name written : String) : UsageFault :=
  ⟨true, s!"Invalid value for '{name}': Path {quotedWord written} is not readable."⟩

/-- A command that does not exist. -/
def unknownCommand (name : String) (suggestions : List String) : UsageFault :=
  ⟨true, withSuggestions s!"No such command {quotedWord name}." suggestions⟩

/-- A command line without a command. -/
def missingCommand : UsageFault :=
  ⟨true, "Missing command."⟩

/-- More arguments than a command takes. -/
def extraArguments (arguments : List String) : UsageFault :=
  let plural := if arguments.length = 1 then "" else "s"
  let words := " ".intercalate arguments
  ⟨true, s!"Got unexpected extra argument{plural} ({words})"⟩

end UsageFault

/-- The options and arguments of a command line. -/
structure Parsed where
  /-- The names of the options in order, with the values of those that take one. -/
  options : List (String × String)
  /-- The arguments in order. -/
  arguments : List String

namespace Parsed

/-- One more option in front. -/
def addOption (name value : String) (parsed : Parsed) : Parsed :=
  { parsed with options := (name, value) :: parsed.options }

/-- One more argument in front. -/
def addArgument (argument : String) (parsed : Parsed) : Parsed :=
  { parsed with arguments := argument :: parsed.arguments }

/-- The value of an option, the last one when it is given more than once. -/
def value? (parsed : Parsed) (name : String) : Option String :=
  parsed.options.reverse.lookup name

/-- How often an option is given. -/
def count (parsed : Parsed) (name : String) : Nat :=
  (parsed.options.filter fun option => option.1 == name).length

/-- The first of some options that is given. -/
def first? (parsed : Parsed) (names : List String) : Option String :=
  (parsed.options.map Prod.fst).find? names.contains

/-- Which of two opposite options is given, the last one when both are. -/
def switch? (parsed : Parsed) (on off : String) : Option Bool :=
  (((parsed.options.map Prod.fst).filter fun name => name == on || name == off).getLast?).map
    (· == on)

end Parsed

/-- The name of an option and the value after an equals sign, if there is one. -/
def splitOption (word : String) : String × Option String :=
  let name := word.toList.takeWhile (· != '=')
  match word.toList.drop name.length with
  | _ :: value => (String.ofList name, some (String.ofList value))
  | [] => (word, none)

/-- The names of the options that short forms stand for, or the first short form that is unknown. -/
def shortOptions (specs : List OptionSpec) : List Char → Except UsageFault (List String)
  | [] => .ok []
  | letter :: letters =>
      match specs.find? fun spec => spec.short == some letter with
      | some spec => (shortOptions specs letters).map (spec.name :: ·)
      | none => .error (.unknownOption (String.ofList ['-', letter]) [])

/-- Reads the words of a command line. When arguments end the options, the first argument does. -/
def parse (specs : List OptionSpec) (argumentsEnd : Bool) :
    List String → Except UsageFault Parsed
  | [] => .ok ⟨[], []⟩
  | word :: words =>
      if word = "--" then .ok ⟨[], words⟩
      else if !word.startsWith "-" || word == "-" then
        if argumentsEnd then .ok ⟨[], word :: words⟩
        else (parse specs argumentsEnd words).map (Parsed.addArgument word)
      else
        let (name, value) := splitOption word
        match specs.find? fun spec => spec.name == name with
        | some spec =>
            if spec.takesValue then
              match value, words with
              | some value, words =>
                  (parse specs argumentsEnd words).map (Parsed.addOption name value)
              | none, value :: words =>
                  (parse specs argumentsEnd words).map (Parsed.addOption name value)
              | none, [] => .error (.missingValue name)
            else
              match value with
              | some _ => .error (.needlessValue name)
              | none => (parse specs argumentsEnd words).map (Parsed.addOption name "")
        | none =>
            if word.startsWith "--" then
              .error (.unknownOption name (similarWords (specs.map OptionSpec.name) name))
            else
              match shortOptions specs (word.toList.drop 1) with
              | .error fault => .error fault
              | .ok names =>
                  (parse specs argumentsEnd words).map fun parsed =>
                    names.foldr (fun name parsed => parsed.addOption name "") parsed

end VersionCatalog.CommandLine
