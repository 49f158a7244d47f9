import SchemaDrift.CommandLine.Layout
import SchemaDrift.CommandLine.Outcome
import SchemaDrift.Session

/-!
# The command `catalogs`

The catalog integrations of a project, those that it declares and those that every project can
use, are listed by name.
-/

namespace SchemaDrift.CommandLine

/-- The catalog integrations of a project. -/
def projectRegistry (c : Config) : Except ConfigurationError Registry :=
  Session.registerAll (.withDefaults c.engine.casing) c.catalogs

/-- A catalog integration for a reader. -/
def integrationLine (i : Integration) : String :=
  "  " ++ padded 24 i.name ++ " " ++ padded 12 i.kind.text ++ " " ++ padded 8 i.format.text ++ " "
    ++ i.externalVolume.getD "-"

/-- **List** the catalog integrations of a project. -/
def runCatalogs (c : Config) : Transcript :=
  match projectRegistry c with
  | .error e => .failure e.message
  | .ok r =>
    { output := heading "Catalog Integrations"
        ++ r.integrations.values.map integrationLine ++ [""] }

end SchemaDrift.CommandLine
