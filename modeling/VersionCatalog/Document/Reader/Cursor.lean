import VersionCatalog.Document.Fault

/-!
# Reading positions

A cursor is what is left of a text, with the line that it begins on. Passing characters counts the
line feeds among them. `many` reads items one after the other until a reader says which is the last;
since every item takes at least one character, the characters left bound the number of rounds.
-/

namespace VersionCatalog.Document

/-- A position in a text. -/
structure Cursor where
  /-- The characters not read yet. -/
  rest : List Char
  /-- The line of the first of them, counted from one. -/
  line : Nat
deriving DecidableEq, Repr

/-- A reader gives a value and the position after it, or a fault. -/
abbrev Reader (α : Type) := Cursor → Except Fault (α × Cursor)

/-- A space or a tab. -/
def isInlineBlank (char : Char) : Bool :=
  char == ' ' || char == '\t'

namespace Cursor

/-- The position before a text. -/
def start (text : List Char) : Cursor := ⟨text, 1⟩

/-- The next character. -/
def peek? (cursor : Cursor) : Option Char := cursor.rest.head?

/-- The position after `count` characters, or after all when fewer are left. -/
def advance (cursor : Cursor) (count : Nat) : Cursor :=
  ⟨cursor.rest.drop count, cursor.line + (cursor.rest.take count).count '\n'⟩

def fault (cursor : Cursor) (cause : Cause) : Fault := ⟨cause, cursor.line⟩

/-- The position after the spaces and tabs. -/
def skipInline (cursor : Cursor) : Cursor :=
  { cursor with rest := cursor.rest.dropWhile isInlineBlank }

/-- The position after a comment, before the line feed that ends it. -/
def skipComment (cursor : Cursor) : Cursor :=
  match cursor.rest with
  | '#' :: rest => { cursor with rest := rest.dropWhile (· != '\n') }
  | _ => cursor

/-- The position after white space, line breaks and comments. -/
def skipFillerFrom (inComment : Bool) (line : Nat) : List Char → Cursor
  | [] => ⟨[], line⟩
  | char :: rest =>
      if char = '\n' then skipFillerFrom false (line + 1) rest
      else if inComment || isInlineBlank char || char == '\r' then
        skipFillerFrom inComment line rest
      else if char = '#' then skipFillerFrom true line rest
      else ⟨char :: rest, line⟩

/-- The position after white space, line breaks and comments. -/
def skipFiller (cursor : Cursor) : Cursor :=
  skipFillerFrom false cursor.line cursor.rest

/-- The position after a carriage return, if one comes next. -/
def skipReturn (cursor : Cursor) : Cursor :=
  match cursor.rest with
  | '\r' :: rest => { cursor with rest }
  | _ => cursor

/-- The position after the end of the line, which only white space and a comment may precede. -/
def finishLine (cursor : Cursor) (content : LineContent) : Except Fault Cursor :=
  let cursor := cursor.skipInline.skipComment.skipReturn
  match cursor.rest with
  | [] => .ok cursor
  | '\n' :: rest => .ok ⟨rest, cursor.line + 1⟩
  | _ => .error (cursor.fault (.trailingText content))

end Cursor

/-- What a reader of items found. -/
inductive Next (α : Type) where
  /-- No further item. -/
  | stop
  /-- An item after which there is no further one. -/
  | last (item : α)
  /-- An item after which the next one is read. -/
  | more (item : α)

/-- The items that were read one after the other, and how reading them ended. -/
structure Items (α : Type) where
  /-- The items in order. -/
  items : List α
  /-- The position after them, or the fault that was met. -/
  ending : Except Fault Cursor

namespace Items

/-- The items with one more before them. -/
def cons {α : Type} (item : α) (others : Items α) : Items α :=
  { others with items := item :: others.items }

/-- The items and the position after them, if no fault was met. -/
def result {α : Type} (items : Items α) : Except Fault (List α × Cursor) :=
  items.ending.map fun cursor => (items.items, cursor)

end Items

/-- Reads items one after the other, in at most one round more than `rounds` has characters. -/
def manyWithin {α : Type} (next : Reader (Next α)) (rounds : List Char) (cursor : Cursor) :
    Items α :=
  match next cursor with
  | .error fault => ⟨[], .error fault⟩
  | .ok (.stop, after) => ⟨[], .ok after⟩
  | .ok (.last item, after) => ⟨[item], .ok after⟩
  | .ok (.more item, after) =>
      match rounds with
      | [] => ⟨[item], .ok after⟩
      | _ :: rounds => (manyWithin next rounds after).cons item

/-- Reads items one after the other. -/
def many {α : Type} (next : Reader (Next α)) (cursor : Cursor) : Items α :=
  manyWithin next cursor.rest cursor

end VersionCatalog.Document
