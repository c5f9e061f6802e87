import VersionCatalog.Text.Pattern
import VersionCatalog.Version.Grammar

/-!
# Module coordinates and plugin identifiers

A library is named by its group and artifact with one colon between them, a plugin by an identifier
with a dot inside. Both consist of Latin letters, digits, dots, hyphens and low lines. One final
line feed does not count.
-/

namespace VersionCatalog

open Text

/-- A character of a group, an artifact or a plugin identifier. -/
def isCoordinateChar (char : Char) : Bool :=
  char.isAlphanum || char == '.' || char == '_' || char == '-'

/-- A run of such characters, `[A-Za-z0-9._-]+`. -/
def namePattern : Pattern := .atLeastOnce (.oneOf isCoordinateChar)

/-- The pattern of a module, `[A-Za-z0-9._-]+:[A-Za-z0-9._-]+`. -/
def modulePattern : Pattern := .andThen namePattern (.andThen (.mark ':') namePattern)

/-- The pattern of a plugin identifier, `[A-Za-z0-9._-]+\.[A-Za-z0-9._-]+`. -/
def pluginIdPattern : Pattern := .andThen namePattern (.andThen (.mark '.') namePattern)

/-- Whether a text is a group and an artifact, neither of them empty, with a colon between. -/
def isModule (text : String) : Bool :=
  match fields ':' (dropFinalNewline text.toList) with
  | [group, artifact] =>
      !group.isEmpty && !artifact.isEmpty && group.all isCoordinateChar &&
        artifact.all isCoordinateChar
  | _ => false

/-- Whether a text is a plugin identifier: a dot stands neither first nor last in it. -/
def isPluginId (text : String) : Bool :=
  let identifier := dropFinalNewline text.toList
  identifier.all isCoordinateChar && (identifier.drop 1).dropLast.contains '.'

end VersionCatalog
