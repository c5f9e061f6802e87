import VersionCatalog.Document.Reader.Line

/-!
# Documents

A document is the list of its sections and of its entries, both in order. Every section is declared
once. The entries before the first header belong to the section of the empty name. A leading
byte-order mark is not part of a document.
-/

namespace VersionCatalog

/-- An assignment in its section. -/
structure Entry where
  /-- The name of the section, empty before the first header. -/
  sectionName : String
  key : String
  value : Document.Value
  /-- The line of the key, counted from one. -/
  line : Nat
deriving DecidableEq, Repr

/-- The sections and entries of a text. -/
structure Document where
  /-- The names of the sections in order. -/
  sections : List String
  /-- The entries in order. -/
  entries : List Entry
deriving DecidableEq, Repr

namespace Document

/-- The names of the headers in order. -/
def headerNames : List Line → List String
  | [] => []
  | .header name _ :: lines => name :: headerNames lines
  | .assignment _ _ _ :: lines => headerNames lines

/-- The entries that lines make when they follow the header of a section. -/
def entriesIn (current : String) : List Line → List Entry
  | [] => []
  | .header name _ :: lines => entriesIn name lines
  | .assignment key value line :: lines =>
      ⟨current, key, value.flatten, line⟩ :: entriesIn current lines

/-- The fault of the first header whose name was declared before. -/
def repeatedHeader? (declared : List String) : List Line → Option Fault
  | [] => none
  | .header name line :: lines =>
      if name ∈ declared then some ⟨.repeatedSection name, line⟩
      else repeatedHeader? (name :: declared) lines
  | .assignment _ _ _ :: lines => repeatedHeader? declared lines

/-- The text after a leading byte-order mark. -/
def dropMark : List Char → List Char
  | '\ufeff' :: text => text
  | text => text

/-- Reads a text as a document. A section that is declared again is reported before any fault that
stands after it. -/
def ofText [CallStack] (text : String) : Except Fault Document :=
  let lines := readLines (dropMark text.toList)
  match repeatedHeader? [] lines.items, lines.ending with
  | some fault, _ => .error fault
  | none, .error fault => .error fault
  | none, .ok _ => .ok ⟨headerNames lines.items, entriesIn "" lines.items⟩

end Document

end VersionCatalog
