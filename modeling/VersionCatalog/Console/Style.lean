/-!
# Styled lines

A line for the reader has a mark and a message, both coloured by the level of the line. A device
that is no terminal gets the line without control sequences, those of colours among them.
-/

namespace VersionCatalog.Console

/-- What a line says. -/
inductive Level where
  | success
  | info
  | warn
  | error
  /-- More on the line before. -/
  | detail
deriving DecidableEq, Repr

namespace Level

def name : Level → String
  | success => "success"
  | info => "info"
  | warn => "warn"
  | error => "error"
  | detail => "detail"

def ofName? (name : String) : Option Level :=
  [success, info, warn, error, detail].find? fun level => level.name == name

/-- The mark at the beginning of a line. -/
def mark : Level → String
  | success => "\u2713"
  | info => "\u2192"
  | warn => "\u26a0"
  | error => "\u2717"
  | detail => " "

/-- The number of a level's colour. -/
def colour : Level → Nat
  | success => 32
  | info => 34
  | warn => 33
  | error => 31
  | detail => 90

end Level

/-- Where a line goes. -/
inductive Stream where
  /-- The results of the command. -/
  | output
  | errors
deriving DecidableEq, Repr

/-- The stream for the lines of a level: warnings and errors are complaints. -/
def Level.stream : Level → Stream
  | warn => .errors
  | error => .errors
  | _ => .output

def coloured (colour : Nat) (text : String) : String :=
  s!"\x1b[{colour}m{text}\x1b[0m"

/-- A line with its mark, in the colour of its level. -/
def styled (level : Level) (message : String) : String :=
  coloured level.colour level.mark ++ " " ++ coloured level.colour message

/-- A character of the parameters of a control sequence: a digit, or one of `:;<=>?`. -/
def isParameter (char : Char) : Bool :=
  '0' ≤ char && char ≤ '?'

/-- A character between the parameters and the end of a control sequence: a space, or one of the
marks up to the slash. -/
def isIntermediate (char : Char) : Bool :=
  ' ' ≤ char && char ≤ '/'

/-- A character that ends a control sequence: a letter, or one of the marks around the letters. -/
def isFinal (char : Char) : Bool :=
  '@' ≤ char && char ≤ '~'

/-- How many characters the control sequence has whose escape character was passed: a bracket,
parameters, intermediate characters, and the character that ends it. -/
def sequenceLength? (text : List Char) : Option Nat :=
  match text with
  | '[' :: rest =>
      let parameters := rest.takeWhile isParameter
      let intermediates := (rest.drop parameters.length).takeWhile isIntermediate
      match rest.drop (parameters.length + intermediates.length) with
      | char :: _ =>
          if isFinal char then some (parameters.length + intermediates.length + 2) else none
      | [] => none
  | _ => none

/-- The text without control sequences, the first `skipped` characters belonging to one. -/
def plainFrom (skipped : Nat) : List Char → List Char
  | [] => []
  | char :: rest =>
      match skipped with
      | skipped + 1 => plainFrom skipped rest
      | 0 =>
          if char = '\x1b' then
            match sequenceLength? rest with
            | some length => plainFrom length rest
            | none => char :: plainFrom 0 rest
          else char :: plainFrom 0 rest

/-- The text without control sequences. -/
def plain (text : String) : String :=
  String.ofList (plainFrom 0 text.toList)

/-- The text as a device gets it. -/
def shownOn (terminal : Bool) (text : String) : String :=
  if terminal then text else plain text

end VersionCatalog.Console
