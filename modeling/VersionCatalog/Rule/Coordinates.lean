import VersionCatalog.Coordinate
import VersionCatalog.Rule.Basic

/-!
# Rules on coordinates

The module of a library is a group and an artifact, and the identifier of a plugin has a dot inside.
-/

namespace VersionCatalog.Rule

/-- The module of every library is a group and an artifact. -/
def moduleFormat : Rule where
  name := "module_format"
  severity := .error
  description := "Verify library modules use group:artifact"
  check context :=
    let modules := context.catalog.libraries.toList.filterMap fun (_, library) => library.module
    .ok ((modules.filter fun module => !isModule module).map fun module =>
      { rule := "module_format"
        severity := .error
        message := s!"Invalid module format: {module}"
        hint := some "Use exactly one ':' between non-empty group and artifact" })

/-- The identifier of every plugin has a dot inside. -/
def pluginIdFormat : Rule where
  name := "plugin_id_format"
  severity := .error
  description := "Verify plugin IDs contain at least one dot"
  check context :=
    let ids := context.catalog.plugins.toList.filterMap fun (_, plugin) => plugin.id
    .ok ((ids.filter fun id => !isPluginId id).map fun id =>
      { rule := "plugin_id_format"
        severity := .error
        message := s!"Invalid plugin ID format: {id}"
        hint := some "Plugin IDs look like 'org.example.plugin'" })

end VersionCatalog.Rule
