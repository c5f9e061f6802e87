import VersionCatalog.Yaml.Reader

/-!
# Loading settings files

Settings files are loaded by a library. What it makes of a text is up to the library; all that
follows on the settings is said of every library.
-/

namespace VersionCatalog.Yaml

/-- Why a text cannot be loaded. -/
inductive LoadFault where
  /-- The text is malformed, with what is said about it. -/
  | malformed (diagnosis : String)
  /-- Something in it has no value. -/
  | refused (refusal : Refusal)
deriving DecidableEq, Repr

/-- A library that loads texts. -/
class Library where
  /-- The datum that a text writes. -/
  load : List Char → Except LoadFault Datum

/-- What is reported when a text cannot be read. -/
def Fault.loadFault : Fault → LoadFault
  | malformed => .malformed "<yaml>"
  | refused refusal => .refused refusal

namespace Library

/-- The library that reads what settings files are usually made of. -/
scoped instance usual : Library where
  load text := (read text).mapError Fault.loadFault

end Library

end VersionCatalog.Yaml
