import VersionCatalog.Document.Reader.Value

/-!
# Lines of a document

A document is a run of section headers and assignments, with blank lines and comments between. An
assignment may take several lines, since arrays, tables and long texts may.
-/

namespace VersionCatalog.Document

open Text

/-- A header or an assignment, with the line that it begins on. -/
inductive Line where
  | header (name : String) (line : Nat)
  /-- An assignment of a value to a key. -/
  | assignment (key : String) (value : Node) (line : Nat)

/-- Reads a section header, the cursor being before its bracket. -/
def readHeader : Reader String := fun cursor =>
  let opened := cursor.advance 1
  if opened.peek? = some '[' then .error (opened.fault .doubleBracketHeader)
  else
    let span := opened.rest.takeWhile fun char => char != ']' && char != '\n'
    match opened.rest.drop span.length with
    | ']' :: rest =>
        let name := String.ofList (strip span)
        if name.isEmpty then .error (opened.fault .emptyHeader)
        else (Cursor.finishLine ⟨rest, opened.line⟩ (.header name)).map fun after => (name, after)
    | _ => .error (opened.fault (.unclosedHeader (String.ofList (strip span))))

variable [CallStack]

/-- Reads an assignment, the cursor being before its key. -/
def readAssignment : Reader (String × Node) := fun cursor =>
  match readKey cursor with
  | .error fault => .error fault
  | .ok (key, after) =>
      let after := after.skipInline
      if after.peek? ≠ some '=' then .error (after.fault (.missingEquals key))
      else
        match readValue (after.advance 1).skipInline with
        | .error fault => .error fault
        | .ok (value, after) =>
            (after.finishLine (.value key)).map fun after => ((key, value), after)

/-- Reads the next header or assignment, until the text ends. -/
def readLine : Reader (Next Line) := fun cursor =>
  let cursor := cursor.skipFiller
  match cursor.rest with
  | [] => .ok (.stop, cursor)
  | '[' :: _ =>
      (readHeader cursor).map fun (name, after) => (.more (.header name cursor.line), after)
  | _ =>
      (readAssignment cursor).map fun ((key, value), after) =>
        (.more (.assignment key value cursor.line), after)

/-- Reads the lines of a text. -/
def readLines (text : List Char) : Items Line :=
  many readLine (Cursor.start text)

end VersionCatalog.Document
