import VersionCatalog.Check.File
import VersionCatalog.Record

/-!
# Records of a check

The records that a check makes on its way: what was read, which entries were passed over, what the
catalog holds, and how the rules ended.
-/

namespace VersionCatalog.Trace

/-- A record of a step on the way. -/
def debug (source : RecordSource) (message : String) : Record :=
  ⟨.debug, source, message⟩

/-- The records on entries of unknown sections. -/
def passedOver (document : Document) : List Record :=
  let unknown := document.entries.filter fun entry => (Section.ofName? entry.sectionName).isNone
  unknown.map fun entry =>
    debug .catalog s!"Ignoring '{entry.key}' in section [{entry.sectionName}]"

/-- The record on what a catalog holds. -/
def built (catalog : Catalog) : Record :=
  debug .catalog <|
    s!"Built catalog: {catalog.versions.size} versions, {catalog.libraries.size} libraries, " ++
      s!"{catalog.plugins.size} plugins, {catalog.bundles.size} bundles"

/-- The record of a check that breaks off. -/
def brokenOff : Record :=
  ⟨.error, .check, "Unexpected failure while validating catalog"⟩

/-- The record on a text that is no document. -/
def unread (fault : Document.Fault) : Record :=
  match fault.cause with
  | .exhausted _ => brokenOff
  | _ => debug .check s!"Catalog is not parseable: {(Failure.ofFault fault).message}"

/-- The record on how the rules ended. -/
def ruled (context : RuleContext) (rules : List Rule) : Record :=
  match applyRules context rules with
  | .error _ => brokenOff
  | .ok findings =>
      let errors := (Report.messages .error findings).length
      let warnings := (Report.messages .warning findings).length
      debug .check s!"Ran {rules.length} rules: {errors} errors, {warnings} warnings"

variable [CallStack]

/-- The records of checking a text. -/
def ofText (rules : List Rule) (scope : KeyScope) (text : String) : List Record :=
  if Text.isBlankText text.toList then []
  else
    match Document.ofText text with
    | .error fault => [unread fault]
    | .ok document =>
        let context := RuleContext.ofDocument text document scope
        let extracted := debug .document <|
          s!"Extracted {document.entries.length} entries " ++
            s!"from {document.sections.length} sections"
        extracted :: passedOver document ++ [built context.catalog, ruled context rules]

/-- The records of checking a file. -/
def ofFile (system : FileSystem) (rules : List Rule) (scope : KeyScope) (path : Path) :
    List Record :=
  match system.read path with
  | .error _ => []
  | .ok content =>
      match Text.Utf8.decode (Text.Utf8.dropMark content) with
      | .error _ => []
      | .ok text => ofText rules scope (String.ofList text)

end VersionCatalog.Trace
