import VersionCatalog.Proofs.Document.Lines

/-!
# Calls between the readers

Reading a document is reading its lines one after the other, and every reader calls others: an
assignment calls those of a key and of a value, with the white space between. A `Stage` is what is
read by one of them, `Stage.calls` are the calls that it makes, and from the first line on they lead
to every stage of a run.
-/

namespace VersionCatalog.Document

open Text

/-- The repetitions of the readers. -/
inductive Loop where
  /-- The headers and assignments of a document. -/
  | lines
  /-- The parts of a key after the first. -/
  | keyParts
  /-- The fields of a table that was opened on the given line. -/
  | fields (depth opening : Nat)
  /-- The items of an array that was opened on the given line. -/
  | items (opening : Nat)
  /-- The characters of a text between double quotes that was opened on the given line. -/
  | quoted (opening : Nat)
  /-- The characters of a text of several lines in which escapes are replaced. -/
  | escaped

namespace Loop

/-- What is read in a round. -/
abbrev Item : Loop → Type
  | lines => Line
  | keyParts => List Char
  | fields _ _ => String × Node
  | items _ => String
  | quoted _ => List Char
  | escaped => List Char

variable [CallStack]

/-- The reader that is repeated. -/
def next : (loop : Loop) → Reader (Next loop.Item)
  | lines => readLine
  | keyParts => readDottedPart
  | fields depth opening => readField (readValueWithin depth) opening
  | items opening => readItem opening
  | quoted opening => readBasicPart opening
  | escaped => readEscapedPart

theorem progressive_next (loop : Loop) : Progressive loop.next := by
  cases loop with
  | lines => exact progressive_readLine
  | keyParts => exact progressive_readDottedPart
  | fields depth opening =>
      exact progressive_readField opening fun read => (readValueWithin_passesSome read).1
  | items opening => exact progressive_readItem opening
  | quoted opening => exact progressive_readBasicPart opening
  | escaped => exact progressive_readEscapedPart

end Loop

/-! ## Stages -/

/-- What is read at a time. -/
inductive Stage where
  /-- A repetition. -/
  | rounds (loop : Loop)
  /-- One round of it. -/
  | round (loop : Loop)
  | header
  | assignment
  | key
  | keyPart
  /-- A value in which tables may be nested as deeply as `depth` says. -/
  | value (depth : Nat)
  /-- A table whose fields have such values. -/
  | table (depth : Nat)
  | array
  | text
  | bareWord
  | basic
  | literal
  | long (quote : Char)
  | escape
  /-- Spaces and tabs. -/
  | inlineBlank
  /-- White space, line breaks and comments. -/
  | filler
  | lineEnd (content : LineContent)

namespace Stage

/-- What is found. -/
abbrev Item : Stage → Type
  | rounds loop => List loop.Item
  | round loop => Next loop.Item
  | header => String
  | assignment => String × Node
  | key => String
  | keyPart => List Char
  | value _ => Node
  | table _ => List (String × Node)
  | array => List String
  | text => String
  | bareWord => List Char
  | basic => List Char
  | literal => List Char
  | long _ => List Char
  | escape => List Char
  | inlineBlank => Unit
  | filler => Unit
  | lineEnd _ => Unit

variable [CallStack]

/-- The reader of a stage. -/
def read : (stage : Stage) → Reader stage.Item
  | rounds loop => fun cursor => (many loop.next cursor).result
  | round loop => loop.next
  | header => readHeader
  | assignment => readAssignment
  | key => readKey
  | keyPart => readKeyPart
  | value depth => readValueWithin depth
  | table depth => readTable (readValueWithin depth)
  | array => readArray
  | text => readText
  | bareWord => readBareWord
  | basic => readBasic
  | literal => readLiteral
  | long quote => readLong quote
  | escape => readEscape
  | inlineBlank => fun cursor => .ok ((), cursor.skipInline)
  | filler => fun cursor => .ok ((), cursor.skipFiller)
  | lineEnd content => fun cursor => (cursor.finishLine content).map fun after => ((), after)

/-- The calls after a key: an equals sign is looked for behind white space, and after it a value. -/
def callsAfterKey (depth : Nat) (ends : Cursor → List (Stage × Cursor)) (named : Cursor) :
    List (Stage × Cursor) :=
  let after := named.skipInline
  (inlineBlank, named) ::
    if after.peek? ≠ some '=' then []
    else
      let valued := (after.advance 1).skipInline
      (inlineBlank, after.advance 1) :: (value depth, valued) ::
        match readValueWithin depth valued with
        | .error _ => []
        | .ok (_, after) => ends after

/-- The stages that a stage calls, with the positions where they begin. -/
def calls : Stage → Cursor → List (Stage × Cursor)
  | rounds loop, cursor =>
      (round loop, cursor) ::
        match loop.next cursor with
        | .ok (.more _, after) => [(rounds loop, after)]
        | _ => []
  | round .lines, cursor =>
      let after := cursor.skipFiller
      (filler, cursor) ::
        match after.rest with
        | [] => []
        | '[' :: _ => [(header, after)]
        | _ => [(assignment, after)]
  | round .keyParts, cursor =>
      let after := cursor.skipInline
      (inlineBlank, cursor) ::
        match after.rest with
        | '.' :: _ => [(inlineBlank, after.advance 1), (keyPart, (after.advance 1).skipInline)]
        | _ => []
  | round (.fields depth _), cursor =>
      if cursor.rest.isEmpty then []
      else
        (key, cursor) ::
          match readKey cursor with
          | .error _ => []
          | .ok (_, named) =>
              callsAfterKey depth (fun valued =>
                (filler, valued) ::
                  match valued.skipFiller.rest with
                  | ',' :: _ => [(filler, valued.skipFiller.advance 1)]
                  | _ => []) named
  | round (.items _), cursor =>
      let after := cursor.skipFiller
      (filler, cursor) ::
        match after.rest with
        | [] => []
        | ']' :: _ => []
        | '\x7b' :: _ => []
        | '[' :: _ => []
        | _ =>
            (text, after) ::
              match readText after with
              | .error _ => []
              | .ok (_, after) => [(filler, after)]
  | round (.quoted _), cursor =>
      match cursor.rest with
      | '\\' :: _ => [(escape, cursor.advance 1)]
      | _ => []
  | round .escaped, cursor =>
      match cursor.rest with
      | '\\' :: _ => [(escape, cursor.advance 1)]
      | _ => []
  | header, cursor =>
      let opened := cursor.advance 1
      if opened.peek? = some '[' then []
      else
        let span := opened.rest.takeWhile fun char => char != ']' && char != '\n'
        match opened.rest.drop span.length with
        | ']' :: rest =>
            let name := String.ofList (strip span)
            if name.isEmpty then [] else [(lineEnd (.header name), ⟨rest, opened.line⟩)]
        | _ => []
  | assignment, cursor =>
      (key, cursor) ::
        match readKey cursor with
        | .error _ => []
        | .ok (name, named) =>
            callsAfterKey CallStack.tableDepth
              (fun valued => [(lineEnd (.value name), valued)]) named
  | key, cursor =>
      (keyPart, cursor) ::
        match readKeyPart cursor with
        | .error _ => []
        | .ok (_, after) => [(rounds .keyParts, after)]
  | keyPart, cursor =>
      match cursor.rest with
      | '"' :: _ => [(basic, cursor)]
      | '\'' :: _ => [(literal, cursor)]
      | _ => []
  | value depth, cursor =>
      match cursor.rest, depth with
      | '\x7b' :: _, depth + 1 => [(table depth, cursor)]
      | '\x7b' :: _, 0 => []
      | '[' :: _, _ => [(array, cursor)]
      | _, _ => [(text, cursor)]
  | table depth, cursor =>
      let opened := (cursor.advance 1).skipFiller
      (filler, cursor.advance 1) ::
        if opened.peek? = some '\x7d' then [] else [(rounds (.fields depth cursor.line), opened)]
  | array, cursor => [(rounds (.items cursor.line), cursor.advance 1)]
  | text, cursor =>
      match cursor.rest with
      | '"' :: '"' :: '"' :: _ => [(long '"', cursor)]
      | '\'' :: '\'' :: '\'' :: _ => [(long '\'', cursor)]
      | '"' :: _ => [(basic, cursor)]
      | '\'' :: _ => [(literal, cursor)]
      | _ => [(bareWord, cursor)]
  | basic, cursor => [(rounds (.quoted cursor.line), cursor.advance 1)]
  | lineEnd _, cursor => [(inlineBlank, cursor)]
  | bareWord, _ => []
  | literal, _ => []
  | long _, _ => []
  | escape, _ => []
  | inlineBlank, _ => []
  | filler, _ => []

/-- A stage is come to, at a position, when a text is read. -/
inductive Called (text : List Char) : Stage → Cursor → Prop where
  /-- The lines are read from the start. -/
  | start : Called text (rounds .lines) (Cursor.start text)
  /-- A stage that is come to calls another. -/
  | call {stage other : Stage} {cursor begun : Cursor} (calling : Called text stage cursor)
      (called : (other, begun) ∈ stage.calls cursor) : Called text other begun

end Stage

end VersionCatalog.Document
