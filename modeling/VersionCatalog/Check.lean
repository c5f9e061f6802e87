import VersionCatalog.Catalog.OfDocument
import VersionCatalog.Failure
import VersionCatalog.Report
import VersionCatalog.Rule.Standard
import VersionCatalog.Text.Blank

/-!
# Checking a catalog

A text is checked in three stages: it must not be blank, it must be a document, and then the rules
are applied to the catalog that it declares. A text that fails a stage gives the report of a single
error, and so does a rule that breaks off; the findings of the rules before it are dropped. A text
on which the call stack is exhausted is reported as a rule that breaks off is, without a hint.
-/

namespace VersionCatalog

/-- The findings of rules in their order, or the reason of the first that breaks off. -/
def applyRules (context : RuleContext) : List Rule → Except Interruption (List Finding)
  | [] => .ok []
  | rule :: rules =>
      match rule.check context with
      | .error broken => .error broken
      | .ok findings => (applyRules context rules).map (findings ++ ·)

/-- What the rules look at for a text and the document that it makes. -/
def RuleContext.ofDocument (text : String) (document : Document) (scope : KeyScope) :
    RuleContext :=
  ⟨text.toList, Catalog.ofDocument document, scope⟩

/-- The report on a text that is no document. -/
def Report.ofFault (time : Timestamp) (fault : Document.Fault) : Report :=
  match fault.cause with
  | .exhausted message => failed s!"Syntax error: {message}" "syntax" time none
  | _ =>
      failed s!"Syntax error: {(Failure.ofFault fault).message}" "syntax" time
        (some "Fix the catalog structure; no further checks were run")

variable [CallStack]

/-- The report on a text. -/
def checkText (rules : List Rule) (scope : KeyScope) (time : Timestamp) (text : String) : Report :=
  if Text.isBlankText text.toList then
    Report.failed "Empty or invalid TOML file" "source" time
      (some "Add [versions] and [libraries] sections")
  else
    match Document.ofText text with
    | .error fault => Report.ofFault time fault
    | .ok document =>
        match applyRules (.ofDocument text document scope) rules with
        | .error broken =>
            Report.failed s!"Syntax error: {broken.message}" "syntax" time none
        | .ok findings => Report.ofFindings findings time

/-- The scope that a datum names, exactly as it is written. -/
def KeyScope.ofDatum (datum : Datum) : Except Failure KeyScope :=
  let named :=
    match datum with
    | .text name => ofName? name
    | _ => none
  match named with
  | some scope => .ok scope
  | none => .error (.invalidSetting "key_scope" datum names)

end VersionCatalog
