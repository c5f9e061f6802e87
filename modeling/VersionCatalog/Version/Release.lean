import VersionCatalog.Text.Blank
import VersionCatalog.Text.Digit
import VersionCatalog.Text.Fields
import VersionCatalog.Text.Pattern

/-!
# Numeric releases

A version such as `2.2.0-rc1` begins with a numeric release: numbers between dots. After it may
follow a hyphen or a plus sign and any text on the same line. Releases are compared number by
number, the shorter one being extended by zeros.
-/

namespace VersionCatalog.Version

open Text

/-- A number, `\d+`. -/
def numberPattern : Pattern := .atLeastOnce (.oneOf isDigit)

/-- A dot and a number, `\.\d+`. -/
def dottedPattern : Pattern := .andThen (.mark '.') numberPattern

/-- The sign before a suffix, `[-+]`. -/
def signPattern : Pattern := .oneOf fun char => char == '-' || char == '+'

/-- A character of the same line, `.`. -/
def linePattern : Pattern := .oneOf (· != '\n')

/-- The pattern of a version with a numeric release, `(\d+(?:\.\d+)*)(?:[-+].*)?`. -/
def releasePattern : Pattern :=
  .andThen (.group (.andThen numberPattern (.many dottedPattern))) <|
    .optional (.andThen signPattern (.many linePattern))

/-- The part of a version before its suffix: the longest run of digits and dots. -/
def numberedPart (version : List Char) : List Char :=
  version.takeWhile fun char => isDigit char || char == '.'

/-- What follows the run of digits and dots. -/
def suffixPart (version : List Char) : List Char :=
  version.dropWhile fun char => isDigit char || char == '.'

/-- Whether a suffix is absent, or a sign with at least `least` characters of the same line. -/
def isSuffix (least : Nat) : List Char → Bool
  | [] => true
  | sign :: text => (sign == '-' || sign == '+') && least ≤ text.length && !text.contains '\n'

/-- The texts of the numbers between the dots of a release, which all have digits. -/
def numbers? (part : List Char) : Option (List (List Char)) :=
  let numbers := fields '.' part
  if numbers.any List.isEmpty then none else some numbers

/-- Reads the numbers of a release, the first that is too long being refused. -/
def readNumbers : List (List Char) → Except LongNumeral (List Nat)
  | [] => .ok []
  | number :: others =>
      match readNumeral number with
      | .error refused => .error refused
      | .ok value => (readNumbers others).map (value :: ·)

/-- The numeric release of a version, white space around the version not counting. There is none
in ranges, in wildcards and in other texts. -/
def release? (version : String) : Except LongNumeral (Option (List Nat)) :=
  let version := strip version.toList
  if isSuffix 0 (suffixPart version) then
    match numbers? (numberedPart version) with
    | some numbers => (readNumbers numbers).map some
    | none => .ok none
  else .ok none

/-- A release filled up with zeros to a number of places. -/
def padded (width : Nat) (release : List Int) : List Int :=
  release ++ List.replicate (width - release.length) 0

/-- Compares numbers one after the other: the first that differ decide, and where there is none the
side that ends first is below. -/
def compareNumbers : List Int → List Int → Ordering
  | [], [] => .eq
  | [], _ :: _ => .lt
  | _ :: _, [] => .gt
  | left :: lefts, right :: rights => (compare left right).then (compareNumbers lefts rights)

/-- Compares two releases, the shorter one being filled up to the places of the longer one. -/
def compareReleases (left right : List Int) : Ordering :=
  let width := max left.length right.length
  compareNumbers (padded width left) (padded width right)

end VersionCatalog.Version
