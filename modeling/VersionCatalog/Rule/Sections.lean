import VersionCatalog.Rule.Basic
import VersionCatalog.Text.Fields

/-!
# Rules on sections

The required sections have to be mentioned by their headers, and should not be empty.
-/

namespace VersionCatalog.Rule

/-- A header of every required section stands somewhere in the text. -/
def requiredSections : Rule where
  name := "required_sections"
  severity := .error
  description := "Verify [versions] and [libraries] sections are present"
  check context :=
    let missing := Section.required.filter fun kind =>
      !Text.mentions s!"[{kind.name}]".toList context.text
    .ok (missing.map fun kind =>
      { rule := "required_sections"
        severity := .error
        message := s!"The {kind.name} section is required"
        hint := some s!"Add a [{kind.name}] section (section names are lowercase)" })

/-- A required section that is declared binds something. -/
def emptySections : Rule where
  name := "empty_sections"
  severity := .warning
  description := "Warn about required sections without entries"
  check context :=
    let catalog := context.catalog
    let unused := Section.required.filter fun kind =>
      catalog.sections.contains kind.name && (catalog.keys kind).isEmpty
    .ok (unused.map fun kind =>
      { rule := "empty_sections"
        severity := .warning
        message := s!"Empty section: {kind.name}"
        hint := some s!"Declare at least one entry under [{kind.name}] or remove it" })

end VersionCatalog.Rule
