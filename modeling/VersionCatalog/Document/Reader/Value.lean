import VersionCatalog.CallStack
import VersionCatalog.Document.Value
import VersionCatalog.Document.Reader.Key
import VersionCatalog.Text.Pattern

/-!
# Values

A value is a quoted text, a bare word such as a number, an array of these, or an inline table. Line
breaks and comments may stand around the items of an array and the fields of a table, and a comma
may follow the last of them. Tables may be nested, as deeply as the call stack allows; arrays hold
texts only.
-/

namespace VersionCatalog.Document

open Text

def endsBareWord (char : Char) : Bool :=
  char == ',' || char == '\x7d' || char == ']' || char == '#' || char == '\n' || char == '\r'

def isBareWordChar (char : Char) : Bool :=
  char.isAlphanum || char == '_' || char == '.' || char == ':' || char == '+' || char == '-'

/-- The pattern of a bare word, `[A-Za-z0-9_.:+-]+`. -/
def bareWordPattern : Pattern := .atLeastOnce (.oneOf isBareWordChar)

/-- Reads a bare word, without the white space around it. -/
def readBareWord : Reader (List Char) := fun cursor =>
  let span := cursor.rest.takeWhile fun char => !endsBareWord char
  let after := cursor.advance span.length
  let word := strip span
  if word.isEmpty then .error (after.fault .missingValue)
  else if word.all isBareWordChar then .ok (word, after)
  else .error (after.fault (.invalidValue (String.ofList word)))

/-- Reads a value that is one text. -/
def readText : Reader String := fun cursor =>
  let content :=
    match cursor.rest with
    | '"' :: '"' :: '"' :: _ => readLong '"' cursor
    | '\'' :: '\'' :: '\'' :: _ => readLong '\'' cursor
    | '"' :: _ => readBasic cursor
    | '\'' :: _ => readLiteral cursor
    | _ => readBareWord cursor
  content.map fun (chars, after) => (String.ofList chars, after)

/-- Reads the next item of an array that was opened on the given line. -/
def readItem (opening : Nat) : Reader (Next String) := fun cursor =>
  let cursor := cursor.skipFiller
  match cursor.rest with
  | [] => .error ⟨.unclosedArray, opening⟩
  | ']' :: _ => .ok (.stop, cursor.advance 1)
  | '\x7b' :: _ => .error (cursor.fault .nestedItem)
  | '[' :: _ => .error (cursor.fault .nestedItem)
  | _ =>
      match readText cursor with
      | .error fault => .error fault
      | .ok (item, after) =>
          let after := after.skipFiller
          match after.rest with
          | ',' :: _ => .ok (.more item, after.advance 1)
          | ']' :: _ => .ok (.last item, after.advance 1)
          | [] => .error ⟨.unclosedArray, opening⟩
          | _ => .error (after.fault .missingItemSeparator)

/-- Reads an array, the cursor being before its bracket. -/
def readArray : Reader (List String) := fun cursor =>
  (many (readItem cursor.line) (cursor.advance 1)).result

/-- Reads the next field of a table that was opened on the given line. -/
def readField (readValue : Reader Node) (opening : Nat) : Reader (Next (String × Node)) :=
  fun cursor =>
    if cursor.rest.isEmpty then .error ⟨.unclosedTable, opening⟩
    else
      match readKey cursor with
      | .error fault => .error fault
      | .ok (name, after) =>
          let after := after.skipInline
          if after.peek? ≠ some '=' then .error (after.fault (.missingFieldEquals name))
          else
            match readValue (after.advance 1).skipInline with
            | .error fault => .error fault
            | .ok (value, after) =>
                let after := after.skipFiller
                match after.rest with
                | ',' :: _ =>
                    let after := (after.advance 1).skipFiller
                    if after.peek? = some '\x7d' then .ok (.last (name, value), after.advance 1)
                    else .ok (.more (name, value), after)
                | '\x7d' :: _ => .ok (.last (name, value), after.advance 1)
                | [] => .error ⟨.unclosedTable, opening⟩
                | _ => .error (after.fault (.missingFieldSeparator name))

/-- Reads an inline table, the cursor being before its brace. -/
def readTable (readValue : Reader Node) : Reader (List (String × Node)) := fun cursor =>
  let opened := (cursor.advance 1).skipFiller
  if opened.peek? = some '\x7d' then .ok ([], opened.advance 1)
  else (many (readField readValue cursor.line) opened).result

/-- Reads a value that is no table. -/
def readFlat : Reader Node := fun cursor =>
  match cursor.rest with
  | '[' :: _ => (readArray cursor).map fun (items, after) => (.array items, after)
  | _ => (readText cursor).map fun (content, after) => (.text content, after)

variable [CallStack]

/-- Reads a value in which tables may be nested as deeply as `depth` says. -/
def readValueWithin : Nat → Reader Node := fun depth cursor =>
  match cursor.rest, depth with
  | '\x7b' :: _, depth + 1 =>
      (readTable (readValueWithin depth) cursor).map fun (fields, after) => (.table fields, after)
  | '\x7b' :: _, 0 => .error (cursor.fault (.exhausted CallStack.message))
  | _, _ => readFlat cursor

/-- Reads a value. -/
def readValue : Reader Node :=
  readValueWithin CallStack.tableDepth

end VersionCatalog.Document
