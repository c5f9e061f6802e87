import VersionCatalog.Version.Release

/-!
# Forms of a version

A declared version has one of three forms: a semantic version `MAJOR[.MINOR[.PATCH]]` with an
optional suffix, a wildcard `MAJOR.MINOR.+`, or a range between brackets. Only the form is checked,
not the order of a range's bounds. One final line feed does not count.
-/

namespace VersionCatalog

namespace Version

open Text

/-- The pattern of a semantic version, `\d+(\.\d+(\.\d+)?)?([-+].+)?`. -/
def semanticPattern : Pattern :=
  .andThen numberPattern <|
    .andThen (.optional (.andThen dottedPattern (.optional dottedPattern))) <|
      .optional (.andThen signPattern (.atLeastOnce linePattern))

/-- The pattern of a wildcard, `\d+\.\d+\.\+`. -/
def wildcardPattern : Pattern :=
  .andThen numberPattern (.andThen dottedPattern (.andThen (.mark '.') (.mark '+')))

/-- One, two or three numbers between dots, with an optional suffix that is not empty. -/
def isSemantic (version : List Char) : Bool :=
  isSuffix 1 (suffixPart version) &&
    match numbers? (numberedPart version) with
    | some numbers => numbers.length ≤ 3
    | none => false

/-- Two numbers and a plus sign between dots. -/
def isWildcard (version : List Char) : Bool :=
  suffixPart version == ['+'] &&
    match fields '.' (numberedPart version) with
    | [major, minor, []] => !major.isEmpty && !minor.isEmpty
    | _ => false

/-- A character between the brackets of a range. -/
def isRangeChar (char : Char) : Bool :=
  isDigit char || char == '.' || char == ','

/-- The pattern of a range, `[\[(][\d.,]+[\])]`. -/
def rangePattern : Pattern :=
  .andThen (.oneOf fun char => char == '[' || char == '(') <|
    .andThen (.atLeastOnce (.oneOf isRangeChar)) (.oneOf fun char => char == ']' || char == ')')

/-- Digits, dots and commas between an opening and a closing bracket, square or round. -/
def isRange : List Char → Bool
  | [] => false
  | opening :: rest =>
      (opening == '[' || opening == '(') && !(rest.takeWhile isRangeChar).isEmpty &&
        match rest.dropWhile isRangeChar with
        | [closing] => closing == ']' || closing == ')'
        | _ => false

end Version

/-- Whether a text has one of the forms of a version. -/
def isVersion (text : String) : Bool :=
  let version := Text.dropFinalNewline text.toList
  Version.isSemantic version || Version.isWildcard version || Version.isRange version

end VersionCatalog
