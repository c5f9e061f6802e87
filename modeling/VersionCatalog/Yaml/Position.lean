/-!
# Positions in a settings file

A position knows its line and its column, since indentation says which data belong together.
-/

namespace VersionCatalog.Yaml

/-- A position in a text. -/
structure Position where
  /-- The characters not read yet. -/
  rest : List Char
  /-- How many characters were read. -/
  index : Nat
  /-- The line, counted from zero. -/
  line : Nat
  /-- The column, counted from zero. -/
  column : Nat

/-- A character that ends a line. -/
def isBreak (char : Char) : Bool :=
  char == '\n' || char == '\x85' || char == '\u2028' || char == '\u2029'

/-- A space or a tab. -/
def isGap (char : Char) : Bool :=
  char == ' ' || char == '\t'

/-- Whether a word ends before this text: at the end, white space or a line's end. -/
def endsWord (text : List Char) : Bool :=
  match text with
  | [] => true
  | char :: _ => isGap char || isBreak char

/-- Whether a line with one of the marks between documents stands here. -/
def atDocumentMark (text : List Char) : Bool :=
  match text with
  | '-' :: '-' :: '-' :: rest => endsWord rest
  | '.' :: '.' :: '.' :: rest => endsWord rest
  | _ => false

/-- A character that a settings file may contain. -/
def isAllowed (char : Char) : Bool :=
  let code := char.toNat
  char == '\t' || char == '\n' || char == '\r' || (0x20 ≤ code && code ≤ 0x7e) || code == 0x85 ||
    (0xa0 ≤ code && code ≤ 0xfffd) || 0x10000 ≤ code

namespace Position

def start (text : List Char) : Position := ⟨text, 0, 0, 0⟩

/-- The next character. -/
def peek? (position : Position) : Option Char := position.rest.head?

/-- The position after characters of the same line. A byte-order mark takes no column. -/
def advance (position : Position) (count : Nat) : Position :=
  let passed := position.rest.take count
  { position with
    rest := position.rest.drop count
    index := position.index + passed.length
    column := position.column + passed.countP (· != '\ufeff') }

/-- The position after the character that ends a line. -/
def passBreak (position : Position) : Position :=
  ⟨position.rest.drop 1, position.index + 1, position.line + 1, 0⟩

/-- The position after characters that are alike. -/
def skipWhile (position : Position) (keep : Char → Bool) : Position :=
  position.advance (position.rest.takeWhile keep).length

end Position

/-- What the end of a line counts as in a text of several lines. -/
def foldedBreak (char : Char) : Char :=
  if char == '\n' || char == '\x85' then '\n' else char

/-- What the white space between two lines counts as: a single line's end is a space. -/
def foldBreaks (first : Char) (others : List Char) : List Char :=
  if foldedBreak first != '\n' then foldedBreak first :: others
  else if others.isEmpty then [' ']
  else others

end VersionCatalog.Yaml
