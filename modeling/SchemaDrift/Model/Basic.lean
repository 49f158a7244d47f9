import SchemaDrift.Model.Manifest
import SchemaDrift.Policy

/-!
# Models

What the planning of one model needs to know: the table it is loaded into, and its settings.
Blank settings for the catalog and the table format count as absent.
-/

namespace SchemaDrift

/-- A **model**. -/
structure Model where
  uniqueId : String
  database : Option String := none
  schema : Option String
  identifier : String
  filePath : Option String := none
  settings : NodeSettings := {}

namespace Model

/-- A model without settings. -/
def ofName (schema : Option String) (identifier : String) : Model where
  uniqueId := s!"model.{identifier}"
  schema
  identifier

/-- The model that a node of a manifest describes. Its table has the alias of the node, or else
its name. -/
def ofNode (n : ManifestNode) : Model where
  uniqueId := n.uniqueId
  database := n.database
  schema := n.schema
  identifier := n.tableName.getD n.name
  filePath := some n.filePath
  settings := n.settings

/-- The catalog integration that a model names. A blank name under the newer spelling is not
made up for by the older one. -/
def catalogName (m : Model) : Option String :=
  (m.settings.catalogName.or m.settings.catalog).filter fun s => !Text.isBlankText s

/-- The table format that a model names. -/
def tableFormat (m : Model) : Option String :=
  m.settings.tableFormat.filter fun s => !Text.isBlankText s

/-- The policy of a model for drifted columns. -/
def policy (m : Model) : Except ConfigurationError Policy :=
  match m.settings.onSchemaChange with
  | some s => Policy.parse s
  | none => .ok default

/-- The dotted name of the table that a model is loaded into. -/
def qualifiedName (m : Model) : String := dottedName m.database m.schema m.identifier

/-- A model as data. -/
def toData (m : Model) : Data :=
  .record [("unique_id", .text m.uniqueId), ("database", .ofOptionText m.database),
    ("schema", .ofOptionText m.schema), ("identifier", .text m.identifier),
    ("original_file_path", .ofOptionText m.filePath), ("config", m.settings.toData)]

/-- Read a model. -/
def ofData? (form : Form) (d : Data) : Option Model := do
  let f ← d.fields? form
    ["unique_id", "database", "schema", "identifier", "original_file_path", "config"]
  let uniqueId ← f.required "unique_id" Data.text?
  let database ← f.optional "database" Data.text?
  let schema ← f.optional "schema" Data.text?
  let identifier ← f.required "identifier" Data.text?
  let filePath ← f.optional "original_file_path" Data.text?
  let settings ← f.required "config" (NodeSettings.ofData? form)
  return { uniqueId, database, schema, identifier, filePath, settings }

end Model

end SchemaDrift
