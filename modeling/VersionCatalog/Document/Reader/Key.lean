import VersionCatalog.Text.Alphanumeric
import VersionCatalog.Document.Reader.Quoted

/-!
# Keys

A key has one or more parts with dots between them. A part is a quoted text of one line, or a run of
alphanumeric characters, low lines and hyphens. The parts are joined again with dots.
-/

namespace VersionCatalog.Document

open Text

/-- A character of a key part without quotes. -/
def isKeyChar (char : Char) : Bool :=
  isAlphanumeric char || char == '_' || char == '-'

def readKeyPart : Reader (List Char) := fun cursor =>
  match cursor.rest with
  | '"' :: _ => readBasic cursor
  | '\'' :: _ => readLiteral cursor
  | rest =>
      let word := rest.takeWhile isKeyChar
      if word.isEmpty then .error (cursor.fault (.missingKey cursor.peek?))
      else .ok (word, cursor.advance word.length)

/-- Reads a dot and a further part, or nothing but white space. -/
def readDottedPart : Reader (Next (List Char)) := fun cursor =>
  let cursor := cursor.skipInline
  match cursor.rest with
  | '.' :: _ =>
      (readKeyPart (cursor.advance 1).skipInline).map fun (part, after) => (.more part, after)
  | _ => .ok (.stop, cursor)

/-- Reads a key, and the spaces and tabs after it. -/
def readKey : Reader String := fun cursor =>
  match readKeyPart cursor with
  | .error fault => .error fault
  | .ok (first, after) =>
      ((many readDottedPart after).result).map fun (others, after) =>
        (String.ofList (['.'].intercalate (first :: others)), after)

end VersionCatalog.Document
