import VersionCatalog.Text.Blank
import VersionCatalog.Text.LooseHexadecimal
import VersionCatalog.Document.Reader.Cursor

/-!
# Quoted texts

A text stands between double quotes, where a backslash begins an escape, or between single quotes,
where every character stands for itself. Three quotes of a kind enclose a text of several lines,
and the white space around that text does not count.
-/

namespace VersionCatalog.Document

open Text

/-- The character that a simple escape stands for. -/
def simpleEscape? : Char → Option Char
  | 'b' => some '\x08'
  | 't' => some '\t'
  | 'n' => some '\n'
  | 'f' => some '\x0c'
  | 'r' => some '\r'
  | '"' => some '"'
  | '\\' => some '\\'
  | _ => none

/-- How many characters the code of an escape takes. -/
def codeWidth? : Char → Option Nat
  | 'u' => some 4
  | 'U' => some 8
  | _ => none

/-- The character of a code, which must be that of a Unicode scalar value. -/
def charOfCode? (code : Int) : Option Char :=
  if 0 ≤ code ∧ code.toNat.isValidChar then some (Char.ofNat code.toNat) else none

/-- Reads what stands after a backslash. An unknown escape stands for itself. -/
def readEscape : Reader (List Char) := fun cursor =>
  match cursor.rest with
  | [] => .ok (['\\'], cursor)
  | marker :: _ =>
      let after := cursor.advance 1
      match simpleEscape? marker with
      | some char => .ok ([char], after)
      | none =>
          match codeWidth? marker with
          | none => .ok (['\\', marker], after)
          | some width =>
              let code := after.rest.take width
              let after := after.advance width
              match (readLooseHex code).bind charOfCode? with
              | some char => .ok ([char], after)
              | none => .error (after.fault (.invalidEscape marker (String.ofList code)))

/-- Reads the next characters between double quotes that were opened on the given line. -/
def readBasicPart (opening : Nat) : Reader (Next (List Char)) := fun cursor =>
  match cursor.rest with
  | [] => .error ⟨.unclosedString, opening⟩
  | '\n' :: _ => .error ⟨.unclosedString, opening⟩
  | '"' :: _ => .ok (.stop, cursor.advance 1)
  | '\\' :: _ => (readEscape (cursor.advance 1)).map fun (chars, after) => (.more chars, after)
  | char :: _ => .ok (.more [char], cursor.advance 1)

/-- Reads a text between double quotes, the cursor being before the first. -/
def readBasic : Reader (List Char) := fun cursor =>
  ((many (readBasicPart cursor.line) (cursor.advance 1)).result).map
    fun (parts, after) => (parts.flatten, after)

/-- Reads a text between single quotes, the cursor being before the first. -/
def readLiteral : Reader (List Char) := fun cursor =>
  let opened := cursor.advance 1
  let content := opened.rest.takeWhile fun char => char != '\'' && char != '\n'
  match opened.rest.drop content.length with
  | '\'' :: rest => .ok (content, ⟨rest, opened.line⟩)
  | _ => .error ⟨.unclosedString, cursor.line⟩

/-- The characters before and after the first three quotes in a row. -/
def splitAtThree? (quote : Char) : List Char → Option (List Char × List Char)
  | [] => none
  | char :: rest =>
      if [quote, quote, quote].isPrefixOf (char :: rest) then some ([], rest.drop 2)
      else (splitAtThree? quote rest).map fun (before, after) => (char :: before, after)

/-- Reads the next characters of a text in which only escapes are special. -/
def readEscapedPart : Reader (Next (List Char)) := fun cursor =>
  match cursor.rest with
  | [] => .ok (.stop, cursor)
  | '\\' :: _ => (readEscape (cursor.advance 1)).map fun (chars, after) => (.more chars, after)
  | char :: _ => .ok (.more [char], cursor.advance 1)

/-- Replaces the escapes of a text. A fault is reported for the line within that text. -/
def unescape (text : List Char) : Except Fault (List Char) :=
  ((many readEscapedPart (Cursor.start text)).result).map fun (parts, _) => parts.flatten

/-- Reads a text between three quotes of a kind, the cursor being before the first. -/
def readLong (quote : Char) : Reader (List Char) := fun cursor =>
  let opened := cursor.advance 3
  match splitAtThree? quote opened.rest with
  | none => .error ⟨.unclosedLongString, cursor.line⟩
  | some (content, _) =>
      let after := opened.advance (content.length + 3)
      if quote = '"' then (unescape content).map fun content => (strip content, after)
      else .ok (strip content, after)

end VersionCatalog.Document
