import VersionCatalog.Text.CodeRange

/-!
# White space

The white space that is trimmed from texts: the Unicode spaces and separators, the ASCII controls
from tab to carriage return, the four information separators, and next line.
-/

namespace VersionCatalog.Text

/-- The ranges of the white-space characters. -/
def blankRanges : CodeRanges :=
  [(0x9, 0xd), (0x1c, 0x20), (0x85, 0x85), (0xa0, 0xa0), (0x1680, 0x1680), (0x2000, 0x200a),
   (0x2028, 0x2029), (0x202f, 0x202f), (0x205f, 0x205f), (0x3000, 0x3000)]

/-- A white-space character. -/
def isBlank (char : Char) : Bool :=
  blankRanges.has char.toNat

/-- The text without the white space before it. -/
def stripStart (text : List Char) : List Char :=
  text.dropWhile isBlank

/-- The text without the white space after it. -/
def stripEnd : List Char → List Char
  | [] => []
  | char :: text =>
      match stripEnd text with
      | [] => if isBlank char then [] else [char]
      | kept => char :: kept

/-- The text without the white space around it. -/
def strip (text : List Char) : List Char :=
  stripEnd (stripStart text)

/-- Whether nothing but white space is left. -/
def isBlankText (text : List Char) : Bool :=
  text.all isBlank

/-- The text without one final line feed. -/
def dropFinalNewline (text : List Char) : List Char :=
  if text.getLast? = some '\n' then text.dropLast else text

end VersionCatalog.Text
