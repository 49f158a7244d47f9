import SchemaDrift.FileError
import SchemaDrift.Json.Reader
import SchemaDrift.Model.Settings

/-!
# Manifests

A manifest describes a project: when and by what it was made, and the nodes of the project by
their ids. Columns that drift are a matter of **incremental** models, which are loaded into a
table that is there already.
-/

namespace SchemaDrift

/-- Where a manifest comes from. -/
structure ManifestMetadata where
  schemaVersion : String
  toolVersion : String
  generatedAt : String
  invocationId : Option String := none
deriving DecidableEq, Repr

/-- A column as a project describes it. -/
structure DescribedColumn where
  name : String
  description : String := ""
  dataType : Option String := none
deriving DecidableEq, Repr

/-- A **node** of a project: a model, a test, a seed and so on. -/
structure ManifestNode where
  uniqueId : String
  name : String
  resourceType : String
  packageName : String
  /-- Its file, seen from the folder of its kind. -/
  path : String
  /-- Its file, seen from the folder of the project. -/
  filePath : String
  database : Option String := none
  schema : Option String := none
  /-- The name of the table, where it is not the name of the node. -/
  tableName : Option String := none
  settings : NodeSettings := {}
  description : String := ""
  columns : Dictionary DescribedColumn := .empty
  /-- The path of names that leads to the node. -/
  namePath : List String := []

/-- Whether a node is a model. -/
def ManifestNode.isModel (n : ManifestNode) : Bool := n.resourceType = "model"

/-- Whether a node is a model that is switched on and loaded incrementally. -/
def ManifestNode.isIncremental (n : ManifestNode) : Bool :=
  n.isModel && n.settings.enabled && n.settings.materialized = some "incremental"

/-- A **manifest**. -/
structure Manifest where
  metadata : ManifestMetadata
  nodes : Dictionary ManifestNode

/-- The incremental models among nodes, in the order of their ids. -/
def ManifestNode.incremental (nodes : List ManifestNode) : List ManifestNode :=
  (nodes.filter (·.isIncremental)).mergeSort fun a b => a.uniqueId ≤ b.uniqueId

namespace Manifest

/-- The models with the ids under which they are listed, in increasing order of these. -/
def models (m : Manifest) : List (String × ManifestNode) :=
  m.nodes.entries.filter fun e => e.2.isModel

/-- The incremental models, in the order of their own ids. -/
def incrementalModels (m : Manifest) : List ManifestNode :=
  ManifestNode.incremental m.nodes.values

end Manifest

/-! ### As data -/

/-- What a manifest says of its making, as data. -/
def ManifestMetadata.toData (m : ManifestMetadata) : Data :=
  .record [("dbt_schema_version", .text m.schemaVersion), ("dbt_version", .text m.toolVersion),
    ("generated_at", .text m.generatedAt), ("invocation_id", .ofOptionText m.invocationId)]

/-- Read what a manifest says of its making. -/
def ManifestMetadata.ofData? (form : Form) (d : Data) : Option ManifestMetadata := do
  let f ← d.fields? form ["dbt_schema_version", "dbt_version", "generated_at", "invocation_id"]
  let schemaVersion ← f.required "dbt_schema_version" Data.text?
  let toolVersion ← f.required "dbt_version" Data.text?
  let generatedAt ← f.required "generated_at" Data.text?
  let invocationId ← f.optionalOrAbsent "invocation_id" Data.text?
  return { schemaVersion, toolVersion, generatedAt, invocationId }

/-- A described column as data. -/
def DescribedColumn.toData (c : DescribedColumn) : Data :=
  .record [("name", .text c.name), ("description", .text c.description),
    ("data_type", .ofOptionText c.dataType)]

/-- Read a described column. -/
def DescribedColumn.ofData? (form : Form) (d : Data) : Option DescribedColumn := do
  let f ← d.fields? form ["name", "description", "data_type"]
  let name ← f.required "name" Data.text?
  let description ← f.defaulted "description" "" Data.text?
  let dataType ← f.optionalOrAbsent "data_type" Data.text?
  return { name, description, dataType }

/-- A node as data. -/
def ManifestNode.toData (n : ManifestNode) : Data :=
  .record [("unique_id", .text n.uniqueId), ("name", .text n.name),
    ("resource_type", .text n.resourceType), ("package_name", .text n.packageName),
    ("path", .text n.path), ("original_file_path", .text n.filePath),
    ("database", .ofOptionText n.database), ("schema", .ofOptionText n.schema),
    ("alias", .ofOptionText n.tableName), ("config", n.settings.toData),
    ("description", .text n.description),
    ("columns", .record (n.columns.entries.map fun e => (e.1, e.2.toData))),
    ("fqn", .ofTexts n.namePath)]

/-- Read a node. -/
def ManifestNode.ofData? (form : Form) (d : Data) : Option ManifestNode := do
  let f ← d.fields? form
    ["unique_id", "name", "resource_type", "package_name", "path", "original_file_path",
      "database", "schema", "alias", "config", "description", "columns", "fqn"]
  let uniqueId ← f.required "unique_id" Data.text?
  let name ← f.required "name" Data.text?
  let resourceType ← f.required "resource_type" Data.text?
  let packageName ← f.required "package_name" Data.text?
  let path ← f.required "path" Data.text?
  let filePath ← f.required "original_file_path" Data.text?
  let database ← f.optionalOrAbsent "database" Data.text?
  let schema ← f.optionalOrAbsent "schema" Data.text?
  let tableName ← f.optionalOrAbsent "alias" Data.text?
  let settings ← f.defaulted "config" {} (NodeSettings.ofData? form)
  let description ← f.defaulted "description" "" Data.text?
  let columns ← f.defaulted "columns" .empty (Data.dictionary? (DescribedColumn.ofData? form))
  let namePath ← f.defaulted "fqn" [] (Data.list? Data.text?)
  return { uniqueId, name, resourceType, packageName, path, filePath, database, schema,
           tableName, settings, description, columns, namePath }

/-- A manifest as data. -/
def Manifest.toData (m : Manifest) : Data :=
  .record [("metadata", m.metadata.toData),
    ("nodes", .record (m.nodes.entries.map fun e => (e.1, e.2.toData)))]

/-- Read a manifest. -/
def Manifest.ofData? (form : Form) (d : Data) : Option Manifest := do
  let f ← d.fields? form ["metadata", "nodes"]
  let metadata ← f.required "metadata" (ManifestMetadata.ofData? form)
  let nodes ← f.required "nodes" (Data.dictionary? (ManifestNode.ofData? form))
  return ⟨metadata, nodes⟩

/-! ### As a file -/

/-- Why a manifest cannot be loaded. -/
inductive ManifestError where
  | unreadable (path : String) (cause : FileError)
  /-- The text is no JSON, or says no manifest. -/
  | malformed
deriving DecidableEq, Repr

/-- What is reported about a manifest that cannot be loaded. -/
def ManifestError.message : ManifestError → String
  | .unreadable path cause => "Failed to read manifest file " ++ path ++ ": " ++ cause.message
  | .malformed => "Failed to parse manifest JSON: not a manifest"

/-- Load a manifest from what was read at a path. -/
def Manifest.load (path : String) (read : Except FileError String) :
    Except ManifestError Manifest :=
  match read with
  | .error e => .error (.unreadable path e)
  | .ok s =>
    match (Json.parse s).bind (Manifest.ofData? .json) with
    | some m => .ok m
    | none => .error .malformed

end SchemaDrift
