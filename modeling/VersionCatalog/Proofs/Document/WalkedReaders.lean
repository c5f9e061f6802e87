import VersionCatalog.Proofs.Document.Lines
import VersionCatalog.Proofs.Document.Walk

/-!
# Walks of the readers

Every reader of a document is a walk: it looks at what comes next, moves on, and fails or gives a
value. The walks below read what the readers read, so that their positions are those that reading a
document comes to. The whole is `Walk.lines`.
-/

namespace VersionCatalog.Document

open Text

namespace Walk

/-! ## Quoted texts -/

/-- The walk over what stands after a backslash. -/
def escape : Walk (List Char) := do
  let cursor ← here
  match cursor.rest with
  | [] => pure ['\\']
  | marker :: _ =>
      advance 1
      match simpleEscape? marker with
      | some char => pure [char]
      | none =>
          match codeWidth? marker with
          | none => pure ['\\', marker]
          | some width =>
              let coded ← here
              let code := coded.rest.take width
              advance width
              let after ← here
              match (readLooseHex code).bind charOfCode? with
              | some char => pure [char]
              | none => fail (after.fault (.invalidEscape marker (String.ofList code)))

@[simp] theorem read_escape (cursor : Cursor) : escape.read cursor = readEscape cursor := by
  fun_cases readEscape cursor with
  | case1 ended => simp [escape, ended]
  | case2 marker rest opened after char simple => simp [escape, opened, simple, after]
  | case3 marker rest opened after complex unknown =>
      simp [escape, opened, complex, unknown, after]
  | case4 marker rest opened after complex width wide code behind char meant =>
      simp only [code, after] at meant
      simp [escape, opened, complex, wide, meant, after, behind]
  | case5 marker rest opened after complex width wide code behind wrong =>
      simp only [code, after] at wrong
      simp [escape, opened, complex, wide, wrong, after, behind, code]

/-- The walk over the next characters between double quotes. -/
def basicPart (opening : Nat) : Walk (Next (List Char)) := do
  let cursor ← here
  match cursor.rest with
  | [] => fail ⟨.unclosedString, opening⟩
  | '\n' :: _ => fail ⟨.unclosedString, opening⟩
  | '"' :: _ =>
      advance 1
      pure .stop
  | '\\' :: _ =>
      advance 1
      .more <$> escape
  | char :: _ =>
      advance 1
      pure (.more [char])

@[simp] theorem read_basicPart (opening : Nat) :
    (basicPart opening).read = readBasicPart opening := by
  funext cursor
  fun_cases readBasicPart opening cursor with
  | case1 ended => simp [basicPart, ended]
  | case2 rest ended => simp [basicPart, ended]
  | case3 rest closed => simp [basicPart, closed]
  | case4 rest opened => simp [basicPart, opened]
  | case5 char rest notFeed notQuote notEscape opened => simp [basicPart, opened]

/-- The walk over the next characters of a text in which only escapes are special. -/
def escapedPart : Walk (Next (List Char)) := do
  let cursor ← here
  match cursor.rest with
  | [] => pure .stop
  | '\\' :: _ =>
      advance 1
      .more <$> escape
  | char :: _ =>
      advance 1
      pure (.more [char])

@[simp] theorem read_escapedPart : escapedPart.read = readEscapedPart := by
  funext cursor
  fun_cases readEscapedPart cursor with
  | case1 ended => simp [escapedPart, ended]
  | case2 rest opened => simp [escapedPart, opened]
  | case3 char rest notEscape opened => simp [escapedPart, opened]

/-- The walk over a text between double quotes. -/
def basic : Walk (List Char) := do
  let opening ← here
  advance 1
  List.flatten <$> many (basicPart opening.line)

@[simp] theorem read_basic (cursor : Cursor) : basic.read cursor = readBasic cursor := by
  simp [basic, readBasic]

/-- The walk over a text between single quotes. -/
def literal : Walk (List Char) := do
  let opening ← here
  advance 1
  let opened ← here
  let content := opened.rest.takeWhile fun char => char != '\'' && char != '\n'
  match opened.rest.drop content.length with
  | '\'' :: _ =>
      advance (content.length + 1)
      pure content
  | _ => fail ⟨.unclosedString, opening.line⟩

@[simp] theorem read_literal (cursor : Cursor) : literal.read cursor = readLiteral cursor := by
  fun_cases readLiteral cursor with
  | case1 opened content rest closed =>
      have passed := advance_takeWhile_succ (by decide) (by decide) closed
      simp only [content, opened] at closed passed
      simp [literal, closed, passed, opened, content]
  | case2 opened content unclosed => simp_all +zetaDelta [literal]

/-- The walk over a text between three quotes of a kind. -/
def long (quote : Char) : Walk (List Char) := do
  let opening ← here
  advance 3
  let opened ← here
  match splitAtThree? quote opened.rest with
  | none => fail ⟨.unclosedLongString, opening.line⟩
  | some (content, _) =>
      advance (content.length + 3)
      if quote = '"' then
        match unescape content with
        | .error fault => fail fault
        | .ok content => pure (strip content)
      else pure (strip content)

@[simp] theorem read_long (quote : Char) (cursor : Cursor) :
    (long quote).read cursor = readLong quote cursor := by
  fun_cases readLong quote cursor with
  | case1 opened unclosed => simp_all +zetaDelta [long]
  | case2 opened content later found after double =>
      simp_all +zetaDelta [long]
      cases unescape content <;> rfl
  | case3 opened content later found after single => simp_all +zetaDelta [long]

/-! ## Keys -/

/-- The walk over a part of a key. -/
def keyPart : Walk (List Char) := do
  let cursor ← here
  match cursor.rest with
  | '"' :: _ => basic
  | '\'' :: _ => literal
  | rest =>
      let word := rest.takeWhile isKeyChar
      passWhile isKeyChar (isKeyChar_of_isBlank rfl)
      if word.isEmpty then fail (cursor.fault (.missingKey cursor.peek?)) else pure word

@[simp] theorem read_keyPart (cursor : Cursor) : keyPart.read cursor = readKeyPart cursor := by
  fun_cases readKeyPart cursor with
  | case1 rest opened => simp [keyPart, opened]
  | case2 rest opened => simp [keyPart, opened]
  | case3 notDouble notSingle word nothing => simp_all +zetaDelta [keyPart]
  | case4 notDouble notSingle word written =>
      have passed := @advance_takeWhile cursor isKeyChar (isKeyChar_of_isBlank rfl)
      simp only [word] at written
      simp only [keyPart, read_bind, read_here, read_passWhile, read_pure, passed, word, written,
        Bool.false_eq_true, if_false]

/-- The walk over a dot and a further part of a key, or over nothing but white space. -/
def dottedPart : Walk (Next (List Char)) := do
  skipInline
  let cursor ← here
  match cursor.rest with
  | '.' :: _ =>
      advance 1
      skipInline
      .more <$> keyPart
  | _ => pure .stop

@[simp] theorem read_dottedPart : dottedPart.read = readDottedPart := by
  funext cursor
  fun_cases readDottedPart cursor with
  | case1 after rest dotted => simp_all +zetaDelta [dottedPart]
  | case2 after undotted => simp_all +zetaDelta [dottedPart]

/-- The walk over a key. -/
def key : Walk String := do
  let first ← keyPart
  (fun others => String.ofList (['.'].intercalate (first :: others))) <$> many dottedPart

@[simp] theorem read_key (cursor : Cursor) : key.read cursor = readKey cursor := by
  fun_cases readKey cursor with
  | case1 fault failed => simp [key, failed]
  | case2 first middle found => simp [key, found]

/-! ## Headers -/

/-- The walk over a section header. -/
def header : Walk String := do
  advance 1
  let opened ← here
  if opened.peek? = some '[' then fail (opened.fault .doubleBracketHeader)
  else
    let span := opened.rest.takeWhile fun char => char != ']' && char != '\n'
    match opened.rest.drop span.length with
    | ']' :: _ =>
        let name := String.ofList (strip span)
        if name.isEmpty then fail (opened.fault .emptyHeader)
        else
          advance (span.length + 1)
          finishLine (.header name)
          pure name
    | _ => fail (opened.fault (.unclosedHeader (String.ofList (strip span))))

@[simp] theorem read_header (cursor : Cursor) : header.read cursor = readHeader cursor := by
  fun_cases readHeader cursor with
  | case1 opened doubled => simp_all +zetaDelta [header]
  | case2 opened single span rest closed name unnamed => simp_all +zetaDelta [header]
  | case3 opened single span rest closed name named =>
      have passed := advance_takeWhile_succ (by decide) (by decide) closed
      simp_all +zetaDelta [header]
      cases Cursor.finishLine _ _ <;> rfl
  | case4 opened single span unclosed => simp_all +zetaDelta [header]

/-! ## Values -/

/-- The walk over a bare word. -/
def bareWord : Walk (List Char) := do
  let cursor ← here
  let span := cursor.rest.takeWhile fun char => !endsBareWord char
  passWhile (fun char => !endsBareWord char) (by decide)
  let after ← here
  let word := strip span
  if word.isEmpty then fail (after.fault .missingValue)
  else if word.all isBareWordChar then pure word
  else fail (after.fault (.invalidValue (String.ofList word)))

@[simp] theorem read_bareWord (cursor : Cursor) : bareWord.read cursor = readBareWord cursor := by
  have oneLine : (!endsBareWord '\n') = false := by decide
  have span := @advance_takeWhile cursor (fun char => !endsBareWord char) oneLine
  simp only [bareWord, readBareWord, read_bind, read_here, read_passWhile, span]
  split
  · rfl
  · split <;> rfl

/-- The walk over a value that is one text. -/
def text : Walk String :=
  String.ofList <$> do
    let cursor ← here
    match cursor.rest with
    | '"' :: '"' :: '"' :: _ => long '"'
    | '\'' :: '\'' :: '\'' :: _ => long '\''
    | '"' :: _ => basic
    | '\'' :: _ => literal
    | _ => bareWord

@[simp] theorem read_text (cursor : Cursor) : text.read cursor = readText cursor := by
  simp only [text, readText, read_map, read_bind, read_here]
  refine congrArg (Except.map _) ?_
  split <;> simp [*]

/-- The walk over the next item of an array. -/
def item (opening : Nat) : Walk (Next String) := do
  skipFiller
  let cursor ← here
  match cursor.rest with
  | [] => fail ⟨.unclosedArray, opening⟩
  | ']' :: _ =>
      advance 1
      pure .stop
  | '\x7b' :: _ => fail (cursor.fault .nestedItem)
  | '[' :: _ => fail (cursor.fault .nestedItem)
  | _ =>
      let item ← text
      skipFiller
      let after ← here
      match after.rest with
      | ',' :: _ =>
          advance 1
          pure (.more item)
      | ']' :: _ =>
          advance 1
          pure (.last item)
      | [] => fail ⟨.unclosedArray, opening⟩
      | _ => fail (after.fault .missingItemSeparator)

@[simp] theorem read_item (opening : Nat) : (item opening).read = readItem opening := by
  funext cursor
  fun_cases readItem opening cursor <;> simp_all +zetaDelta [item]

/-- The walk over an array. -/
def array : Walk (List String) := do
  let opening ← here
  advance 1
  many (item opening.line)

@[simp] theorem read_array (cursor : Cursor) : array.read cursor = readArray cursor := by
  simp [array, readArray]

/-- The walk over the next field of a table. -/
def field (value : Walk Node) (opening : Nat) : Walk (Next (String × Node)) := do
  let cursor ← here
  if cursor.rest.isEmpty then fail ⟨.unclosedTable, opening⟩
  else
    let name ← key
    skipInline
    let after ← here
    if after.peek? ≠ some '=' then fail (after.fault (.missingFieldEquals name))
    else
      advance 1
      skipInline
      let node ← value
      skipFiller
      let after ← here
      match after.rest with
      | ',' :: _ =>
          advance 1
          skipFiller
          let after ← here
          if after.peek? = some '\x7d' then
            advance 1
            pure (.last (name, node))
          else pure (.more (name, node))
      | '\x7d' :: _ =>
          advance 1
          pure (.last (name, node))
      | [] => fail ⟨.unclosedTable, opening⟩
      | _ => fail (after.fault (.missingFieldSeparator name))

@[simp] theorem read_field (value : Walk Node) (opening : Nat) :
    (field value opening).read = readField value.read opening := by
  funext cursor
  fun_cases readField value.read opening cursor <;> simp_all +zetaDelta [field]

/-- The walk over a table. -/
def table (value : Walk Node) : Walk (List (String × Node)) := do
  let opening ← here
  advance 1
  skipFiller
  let opened ← here
  if opened.peek? = some '\x7d' then
    advance 1
    pure []
  else many (field value opening.line)

@[simp] theorem read_table (value : Walk Node) (cursor : Cursor) :
    (table value).read cursor = readTable value.read cursor := by
  fun_cases readTable value.read cursor <;> simp_all +zetaDelta [table]

/-- The walk over a value that is no table. -/
def flatValue : Walk Node := do
  let cursor ← here
  if cursor.rest.head? = some '[' then .array <$> array else .text <$> text

@[simp] theorem read_flatValue (cursor : Cursor) :
    flatValue.read cursor = readFlat cursor := by
  rw [readFlat_eq]
  by_cases array : cursor.rest.head? = some '[' <;> simp [flatValue, array]

variable [CallStack]

/-- The walk over a value in which tables may be nested as deeply as `depth` says. -/
def valueWithin : Nat → Walk Node
  | 0 => do
      let cursor ← here
      if cursor.rest.head? = some '\x7b' then fail (cursor.fault (.exhausted CallStack.message))
      else flatValue
  | depth + 1 => do
      let cursor ← here
      if cursor.rest.head? = some '\x7b' then .table <$> table (valueWithin depth) else flatValue

@[simp] theorem read_valueWithin (depth : Nat) :
    (valueWithin depth).read = readValueWithin depth := by
  induction depth with
  | zero =>
      funext cursor
      rw [readValueWithin_zero]
      by_cases table : cursor.rest.head? = some '\x7b' <;> simp [valueWithin, table]
  | succ depth induction =>
      funext cursor
      rw [readValueWithin_succ]
      by_cases table : cursor.rest.head? = some '\x7b' <;> simp [valueWithin, table, induction]

/-- The walk over a value. -/
def value : Walk Node :=
  valueWithin CallStack.tableDepth

@[simp] theorem read_value (cursor : Cursor) : value.read cursor = readValue cursor := by
  rw [value, read_valueWithin, readValue]

/-! ## Lines -/

/-- The walk over an assignment. -/
def assignment : Walk (String × Node) := do
  let name ← key
  skipInline
  let after ← here
  if after.peek? ≠ some '=' then fail (after.fault (.missingEquals name))
  else
    advance 1
    skipInline
    let node ← value
    finishLine (.value name)
    pure (name, node)

@[simp] theorem read_assignment (cursor : Cursor) :
    assignment.read cursor = readAssignment cursor := by
  fun_cases readAssignment cursor with
  | case1 fault failed => simp [assignment, failed]
  | case2 name after named behind unassigned => simp_all +zetaDelta [assignment]
  | case3 name after named behind assigned fault failed => simp_all +zetaDelta [assignment]
  | case4 name after named behind assigned node stopped found =>
      simp_all +zetaDelta [assignment]
      cases Cursor.finishLine _ _ <;> rfl

/-- The walk over the next header or assignment. -/
def line : Walk (Next Line) := do
  skipFiller
  let cursor ← here
  match cursor.rest with
  | [] => pure .stop
  | '[' :: _ => (fun name => .more (.header name cursor.line)) <$> header
  | _ => (fun (key, value) => .more (.assignment key value cursor.line)) <$> assignment

@[simp] theorem read_line : line.read = readLine := by
  funext cursor
  fun_cases readLine cursor <;> simp_all +zetaDelta [line]

/-- The walk over the lines of a text. -/
def lines : Walk (List Line) :=
  many line

theorem read_lines (text : List Char) :
    lines.read (Cursor.start text) = (readLines text).result := by
  rw [lines, read_many, read_line, readLines]

end Walk

end VersionCatalog.Document
