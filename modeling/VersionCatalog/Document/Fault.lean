/-!
# Faults of a document

A document that cannot be read has one fault, with the line where it is reported.
-/

namespace VersionCatalog.Document

/-- What a line holds before the text that should not follow. -/
inductive LineContent where
  /-- A section header with its name. -/
  | header (name : String)
  | value (key : String)
deriving DecidableEq, Repr

/-- Why a document cannot be read. -/
inductive Cause where
  | doubleBracketHeader
  | unclosedHeader (fragment : String)
  | emptyHeader
  | repeatedSection (name : String)
  | missingKey (found : Option Char)
  | missingEquals (key : String)
  | missingFieldEquals (field : String)
  | missingValue
  | invalidValue (token : String)
  | unclosedString
  | unclosedLongString
  | invalidEscape (marker : Char) (code : String)
  | unclosedTable
  | missingFieldSeparator (field : String)
  | unclosedArray
  | nestedItem
  | missingItemSeparator
  | trailingText (after : LineContent)
  /-- The call stack does not suffice for the nesting of the tables, which is reported so. -/
  | exhausted (message : String)
deriving DecidableEq, Repr

/-- The words for what a line holds. -/
def LineContent.text : LineContent → String
  | header name => s!"section header [{name}]"
  | value key => s!"value of '{key}'"

/-- The reason that is reported. -/
def Cause.reason : Cause → String
  | doubleBracketHeader => "Arrays of tables are not supported in version catalogs"
  | unclosedHeader fragment => s!"Unterminated section header: [{fragment}"
  | emptyHeader => "Empty section header: []"
  | repeatedSection name => s!"Duplicate section: [{name}]"
  | missingKey (some char) => s!"Expected a key but found '{char}'"
  | missingKey none => "Expected a key but found 'end of file'"
  | missingEquals key => s!"Expected '=' after key '{key}'"
  | missingFieldEquals field => s!"Expected '=' after field '{field}' in inline table"
  | missingValue => "Missing value"
  | invalidValue token => s!"Invalid value: {token}"
  | unclosedString => "Unterminated string"
  | unclosedLongString => "Unterminated multi-line string"
  | invalidEscape marker code => s!"Invalid unicode escape: \\{marker}{code}"
  | unclosedTable => "Unterminated inline table"
  | missingFieldSeparator field => s!"Expected ',' or '\x7d' after field '{field}' in inline table"
  | unclosedArray => "Unterminated array"
  | nestedItem => "Only arrays of strings are supported"
  | missingItemSeparator => "Expected ',' or ']' in array"
  | trailingText after => s!"Unexpected text after {after.text}"
  | exhausted message => message

/-- A fault, with the line that it is reported for. -/
structure Fault where
  /-- Why the document cannot be read. -/
  cause : Cause
  /-- The line, counted from one. -/
  line : Nat
deriving DecidableEq, Repr

end VersionCatalog.Document
