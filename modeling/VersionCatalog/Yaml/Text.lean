import VersionCatalog.Text.Hexadecimal
import VersionCatalog.Yaml.Fault
import VersionCatalog.Yaml.Position

/-!
# Texts of a settings file

A text stands between quotes or without quotes, and may go over several lines. The line's end and
the indentation between two lines count as one space, and every further line's end counts.
-/

namespace VersionCatalog.Yaml

open Text

/-- Reads the ends of lines and the gaps between them up to the next text. A mark between documents
must not stand there. -/
def readBreaks (rounds : List Char) (position : Position) : Option (List Char × Position) :=
  if atDocumentMark position.rest then none
  else
    let position := position.skipWhile isGap
    match position.rest, rounds with
    | char :: _, _ :: rounds =>
        if isBreak char then
          (readBreaks rounds position.passBreak).map fun (breaks, position) =>
            (foldedBreak char :: breaks, position)
        else some ([], position)
    | _, _ => some ([], position)

/-- The character that a simple escape stands for. -/
def simpleEscape? : Char → Option Char
  | '0' => some '\x00'
  | 'a' => some '\x07'
  | 'b' => some '\x08'
  | 't' => some '\t'
  | '\t' => some '\t'
  | 'n' => some '\n'
  | 'v' => some '\x0b'
  | 'f' => some '\x0c'
  | 'r' => some '\r'
  | 'e' => some '\x1b'
  | ' ' => some ' '
  | '"' => some '"'
  | '\\' => some '\\'
  | '/' => some '/'
  | 'N' => some '\u0085'
  | '_' => some '\u00a0'
  | 'L' => some '\u2028'
  | 'P' => some '\u2029'
  | _ => none

/-- How many digits the code of an escape has. -/
def codeWidth? : Char → Option Nat
  | 'x' => some 2
  | 'u' => some 4
  | 'U' => some 8
  | _ => none

/-- The character of a code. Halves of surrogate pairs are no characters. -/
def charOfCode (code : Nat) : Except Fault Char :=
  if code.isValidChar then .ok (Char.ofNat code)
  else if code < 0x110000 then .error .malformed
  else if code < 0x80000000 then .error (.refused .beyondCharacters)
  else .error (.refused .overflow)

/-- The character whose code is written with this many digits. -/
def readCode (width : Nat) (text : List Char) : Except Fault Char := do
  let digits := text.take width
  let code ← required
    (digits.foldlM (fun code digit => (hexValue? digit).map (16 * code + ·)) 0)
  if digits.length = width then charOfCode code else .error .malformed

/-- Reads an escape, the position being after its backslash. -/
def readEscape (position : Position) : Except Fault (List Char × Position) := do
  let marker ← required position.peek?
  match simpleEscape? marker with
  | some char => return ([char], position.advance 1)
  | none =>
      match codeWidth? marker with
      | some width =>
          let digits := position.advance 1
          let char ← readCode width digits.rest
          return ([char], digits.advance width)
      | none =>
          if isBreak marker then required (readBreaks position.rest position.passBreak)
          else .error .malformed

/-- Reads white space inside a text between quotes. -/
def readQuotedGap (position : Position) : Option (List Char × Position) :=
  let gap := position.rest.takeWhile isGap
  let after := position.advance gap.length
  match after.rest with
  | [] => none
  | char :: _ =>
      if isBreak char then
        (readBreaks after.rest after.passBreak).map fun (breaks, position) =>
          (foldBreaks char breaks, position)
      else some (gap, after)

/-- Reads the next part of a text between quotes, or nothing at the closing quote. -/
def readQuotedPart (quote : Char) (position : Position) :
    Except Fault (Option (List Char) × Position) :=
  match position.rest with
  | [] => .error .malformed
  | char :: rest =>
      if char = quote then
        if quote = '\'' ∧ rest.head? = some '\'' then .ok (some ['\''], position.advance 2)
        else .ok (none, position.advance 1)
      else if char = '\\' ∧ quote = '"' then
        (readEscape (position.advance 1)).map fun (part, position) => (some part, position)
      else if isGap char || isBreak char then
        (required (readQuotedGap position)).map fun (part, position) => (some part, position)
      else .ok (some [char], position.advance 1)

/-- Reads the parts of a text up to the closing quote. -/
def readQuotedParts (quote : Char) (rounds : List Char) (position : Position) :
    Except Fault (List Char × Position) :=
  match readQuotedPart quote position, rounds with
  | .error fault, _ => .error fault
  | .ok (none, position), _ => .ok ([], position)
  | .ok (some part, position), _ :: rounds =>
      (readQuotedParts quote rounds position).map fun (content, position) =>
        (part ++ content, position)
  | .ok (some _, _), [] => .error .malformed

/-- Reads a text between quotes, the position being before the opening quote. -/
def readQuoted (quote : Char) (position : Position) : Except Fault (List Char × Position) :=
  readQuotedParts quote position.rest (position.advance 1)

/-- A mark of collections between brackets. -/
def isFlowMark (char : Char) : Bool :=
  char == ',' || char == '[' || char == ']' || char == '\x7b' || char == '\x7d'

/-- The beginning of a text that belongs to a line without quotes. -/
def plainSpan (inFlow : Bool) : List Char → List Char
  | [] => []
  | char :: rest =>
      let stops :=
        isGap char || isBreak char || (inFlow && (isFlowMark char || char == '?')) ||
          (char == ':' && (endsWord rest || (inFlow && rest.head?.any isFlowMark)))
      if stops then [] else char :: plainSpan inFlow rest

/-- Reads the ends of lines and the spaces inside a text without quotes; nothing if a mark between
documents stands there. -/
def readPlainBreaks (rounds : List Char) (position : Position) : Option (List Char) × Position :=
  if atDocumentMark position.rest && position.column == 0 then (none, position)
  else
    let position := position.skipWhile (· == ' ')
    match position.rest, rounds with
    | char :: _, _ :: rounds =>
        if isBreak char then
          let (breaks, position) := readPlainBreaks rounds position.passBreak
          (breaks.map (foldedBreak char :: ·), position)
        else (some [], position)
    | _, _ => (some [], position)

/-- Reads white space inside a text without quotes. What is given last is whether a line ended. -/
def readPlainGap (position : Position) : List Char × Position × Bool :=
  let gap := position.rest.takeWhile (· == ' ')
  let after := position.advance gap.length
  match after.rest with
  | [] => (gap, after, false)
  | char :: _ =>
      if isBreak char then
        match readPlainBreaks after.rest after.passBreak with
        | (some breaks, position) => (foldBreaks char breaks, position, true)
        | (none, position) => ([], position, true)
      else (gap, after, false)

/-- Reads a text without quotes after the white space `gap`. Outside of brackets, its further lines
are indented by at least `indent`. What is given last is whether a line ended at its end. -/
def readPlain (inFlow : Bool) (indent : Int) (rounds gap : List Char) (ended : Bool)
    (position : Position) : List Char × Position × Bool :=
  let span := if position.peek? == some '#' then [] else plainSpan inFlow position.rest
  match span, rounds with
  | _ :: _, _ :: rounds =>
      let (next, after, ended) := readPlainGap (position.advance span.length)
      let stops :=
        next.isEmpty || after.peek? == some '#' ||
          (!inFlow && decide ((after.column : Int) < indent))
      let (others, after, ended) :=
        if stops then ([], after, ended) else readPlain inFlow indent rounds next ended after
      (gap ++ span ++ others, after, ended)
  | _, _ => ([], position, ended)

end VersionCatalog.Yaml
