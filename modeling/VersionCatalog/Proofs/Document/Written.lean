import VersionCatalog.Document.Basic

/-!
# Documents as they are written

One document can be laid out in many ways. A written document holds the layout together with the
content: the spaces and tabs around dots and equals signs, the filler in arrays and tables, and
whether a comma follows the last item. Its text is one way to write the document that it stands for.
Nothing can be built here that cannot be written: comments stay on their line, and the names of
sections fit between brackets and differ from each other.
-/

namespace VersionCatalog.Document

/-! ## Layout -/

/-- A space or a tab. -/
inductive InlineBlank where
  | space
  | tab

def InlineBlank.char : InlineBlank → Char
  | space => ' '
  | tab => '\t'

/-- What may stand around the items of arrays and tables. A line feed ends a comment. -/
inductive Filler where
  | space
  | tab
  | carriageReturn
  | lineFeed
  | comment (words : List Char) (oneLine : '\n' ∉ words)

def Filler.text : Filler → List Char
  | space => [' ']
  | tab => ['\t']
  | carriageReturn => ['\r']
  | lineFeed => ['\n']
  | comment words _ => '#' :: words ++ ['\n']

def blanksText (blanks : List InlineBlank) : List Char :=
  blanks.map InlineBlank.char

def fillerText (filler : List Filler) : List Char :=
  filler.flatMap Filler.text

/-! ## Texts and keys -/

/-- A character between double quotes. -/
def escaped : Char → List Char
  | '\\' => ['\\', '\\']
  | '"' => ['\\', '"']
  | '\n' => ['\\', 'n']
  | char => [char]

/-- A text between double quotes. -/
def quoted (content : String) : List Char :=
  '"' :: content.toList.flatMap escaped ++ ['"']

/-- A further part of a key, with the blanks around its dot. -/
structure DottedPart where
  before : List InlineBlank
  after : List InlineBlank
  part : String

def DottedPart.text (dotted : DottedPart) : List Char :=
  blanksText dotted.before ++ '.' :: blanksText dotted.after ++ quoted dotted.part

/-- A key of one part or more. -/
structure WrittenKey where
  first : String
  others : List DottedPart

namespace WrittenKey

def parts (key : WrittenKey) : List String :=
  key.first :: key.others.map DottedPart.part

def text (key : WrittenKey) : List Char :=
  quoted key.first ++ key.others.flatMap DottedPart.text

end WrittenKey

/-- Parts of a key as one text. -/
def dotted (parts : List String) : String :=
  ".".intercalate parts

/-- A key with its equals sign, and the blanks around that. -/
structure Target where
  key : WrittenKey
  before : List InlineBlank
  after : List InlineBlank

def Target.text (target : Target) : List Char :=
  target.key.text ++ blanksText target.before ++ '=' :: blanksText target.after

/-! ## Values -/

/-- What may follow the bracket of an array, or a comma in it: nothing but filler, which is a
trailing comma if there are items before, a last item, or an item and a comma. -/
inductive WrittenItems where
  | closed (filler : List Filler)
  | last (before : List Filler) (item : String) (after : List Filler)
  | more (before : List Filler) (item : String) (after : List Filler) (others : WrittenItems)

namespace WrittenItems

def contents : WrittenItems → List String
  | closed _ => []
  | last _ item _ => [item]
  | more _ item _ others => item :: others.contents

def text : WrittenItems → List Char
  | closed filler => fillerText filler
  | last before item after => fillerText before ++ quoted item ++ fillerText after
  | more before item after others =>
      fillerText before ++ quoted item ++ fillerText after ++ ',' :: others.text

end WrittenItems

mutual

/-- A value. -/
inductive WrittenValue where
  | text (content : String)
  | array (items : WrittenItems)
  | table (fields : WrittenFields)

/-- What may follow the brace of a table, or a comma in it. -/
inductive WrittenFields where
  | closed (filler : List Filler)
  | last (before : List Filler) (target : Target) (value : WrittenValue) (after : List Filler)
  | more (before : List Filler) (target : Target) (value : WrittenValue) (after : List Filler)
      (others : WrittenFields)

end

mutual

def WrittenValue.characters : WrittenValue → List Char
  | .text content => quoted content
  | .array items => '[' :: items.text ++ [']']
  | .table fields => '\x7b' :: fields.characters ++ ['\x7d']

def WrittenFields.characters : WrittenFields → List Char
  | .closed filler => fillerText filler
  | .last before target value after =>
      fillerText before ++ target.text ++ value.characters ++ fillerText after
  | .more before target value after others =>
      fillerText before ++ target.text ++ value.characters ++ fillerText after ++
        ',' :: others.characters

end

mutual

/-- The texts and arrays in a value, with the parts of all keys that lead to them. -/
def WrittenValue.leaves (path : List String) : WrittenValue → List (List String × Leaf)
  | .text content => [(path, .text content)]
  | .array items => [(path, .array items.contents)]
  | .table fields => fields.leaves path

/-- The texts and arrays in the fields of a table that stands at a path. -/
def WrittenFields.leaves (path : List String) : WrittenFields → List (List String × Leaf)
  | .closed _ => []
  | .last _ target value _ => value.leaves (path ++ target.key.parts)
  | .more _ target value _ others =>
      value.leaves (path ++ target.key.parts) ++ others.leaves path

end

mutual

/-- What is read for a written value. -/
def WrittenValue.node : WrittenValue → Node
  | .text content => .text content
  | .array items => .array items.contents
  | .table fields => .table fields.nodes

/-- What is read for the fields of a written table. -/
def WrittenFields.nodes : WrittenFields → List (String × Node)
  | .closed _ => []
  | .last _ target value _ => [(dotted target.key.parts, value.node)]
  | .more _ target value _ others => (dotted target.key.parts, value.node) :: others.nodes

end

mutual

/-- How many tables stand inside each other in a value. -/
def Node.nesting : Node → Nat
  | .text _ => 0
  | .array _ => 0
  | .table fields => nestingIn fields + 1

/-- How many tables stand inside each other in the fields of a table. -/
def Node.nestingIn : List (String × Node) → Nat
  | [] => 0
  | (_, node) :: fields => max node.nesting (nestingIn fields)

end

/-- The value that is meant. The fields of nested tables are named by all parts on the way. -/
def WrittenValue.meaning : WrittenValue → Value
  | .text content => .text content
  | .array items => .array items.contents
  | .table fields => .table ((fields.leaves []).map fun (path, leaf) => (dotted path, leaf))

/-! ## Documents -/

/-- An assignment. -/
structure WrittenEntry where
  target : Target
  value : WrittenValue

def WrittenEntry.text (entry : WrittenEntry) : List Char :=
  entry.target.text ++ entry.value.characters

/-- A section whose name can stand in a header. -/
structure WrittenSection where
  name : String
  entries : List WrittenEntry
  named : name ≠ ""
  unclosed : ']' ∉ name.toList
  oneLine : '\n' ∉ name.toList
  single : name.toList.head? ≠ some '['
  stripped : Text.strip name.toList = name.toList

namespace WrittenSection

def header (written : WrittenSection) : List Char :=
  '[' :: written.name.toList ++ [']']

/-- The header and the entries, each of which begins on a line of its own. -/
def lines (written : WrittenSection) : List (List Char) :=
  written.header :: written.entries.map WrittenEntry.text

end WrittenSection

/-- A document, and whether a line feed ends its last line too. -/
structure WrittenDocument where
  root : List WrittenEntry
  sections : List WrittenSection
  distinct : (sections.map WrittenSection.name).Nodup
  closed : Bool

/-- The entries of a section that come after a text. The line of an entry is counted by the line
feeds before it. -/
def entriesAfter (sectionName : String) (before : List Char) : List WrittenEntry → List Entry
  | [] => []
  | entry :: others =>
      ⟨sectionName, dotted entry.target.key.parts, entry.value.meaning, 1 + before.count '\n'⟩ ::
        entriesAfter sectionName (before ++ entry.text ++ ['\n']) others

/-- Lines, each of them ended by a line feed. -/
def endLines (lines : List (List Char)) : List Char :=
  lines.flatMap fun line => line ++ ['\n']

/-- The entries of sections that come after a text. -/
def sectionEntriesAfter (before : List Char) : List WrittenSection → List Entry
  | [] => []
  | written :: others =>
      entriesAfter written.name (before ++ written.header ++ ['\n']) written.entries ++
        sectionEntriesAfter (before ++ endLines written.lines) others

namespace WrittenDocument

def entries (written : WrittenDocument) : List WrittenEntry :=
  written.root ++ written.sections.flatMap WrittenSection.entries

/-- How many tables stand inside each other in a value of the document. -/
def nesting (written : WrittenDocument) : Nat :=
  (written.entries.map fun entry => entry.value.node.nesting).foldr max 0

/-- All lines in order: the entries before the first header, then the sections. -/
def lines (written : WrittenDocument) : List (List Char) :=
  written.root.map WrittenEntry.text ++ written.sections.flatMap WrittenSection.lines

def text (written : WrittenDocument) : String :=
  String.ofList
    (['\n'].intercalate written.lines ++ if written.closed then ['\n'] else [])

/-- The document that is meant. -/
def meaning (written : WrittenDocument) : Document :=
  ⟨written.sections.map WrittenSection.name,
    entriesAfter "" [] written.root ++
      sectionEntriesAfter (endLines (written.root.map WrittenEntry.text)) written.sections⟩

end WrittenDocument

end VersionCatalog.Document
