import SchemaDrift.Config
import SchemaDrift.Model.Basic
import SchemaDrift.Relation.Basic

/-!
# Catalog integrations

A catalog integration decides in which format the tables of its models are stored, and where.
There are two kinds:

* the **information schema** of the warehouse, for native tables;
* the **built-in** catalog, for Iceberg tables that the warehouse manages on an external
  volume.

An integration may set the format itself; only Iceberg tables of the built-in catalog have a
location on the volume.
-/

namespace SchemaDrift

/-- The kinds of catalog integrations. -/
inductive CatalogKind where
  | infoSchema
  | builtIn
deriving DecidableEq, Repr

namespace CatalogKind

/-- The name of a kind. -/
def text : CatalogKind → String
  | .infoSchema => "INFO_SCHEMA"
  | .builtIn => "BUILT_IN"

/-- The format of tables in an integration that sets none. -/
def defaultFormat : CatalogKind → StorageFormat
  | .infoSchema => .native
  | .builtIn => .iceberg

/-- The kind that a project names, blanks around it and case aside. -/
def parse (s : String) : Except ConfigurationError CatalogKind :=
  let name := Text.upper (Text.trim s)
  match [infoSchema, builtIn].find? fun k => k.text = name with
  | some k => .ok k
  | none => .error (.unknownCatalogType name)

end CatalogKind

/-- A **catalog integration**. -/
structure Integration where
  kind : CatalogKind
  config : CatalogConfig
deriving DecidableEq, Repr

/-- The relation of a model as a catalog integration places it. -/
structure Placement where
  relation : Relation
  catalogName : String
  kind : CatalogKind
  externalVolume : Option String
  /-- Where an Iceberg table is stored on its volume. -/
  baseLocation : Option String
deriving DecidableEq, Repr

namespace Integration

/-- The name of an integration. -/
def name (i : Integration) : String := i.config.name

/-- The format of the tables of an integration. -/
def format (i : Integration) : StorageFormat :=
  match i.config.tableFormat.filter fun s => !Text.isBlankText s with
  | some s => .ofTableFormat s
  | none => i.kind.defaultFormat

/-- The external volume of an integration; the information schema has none. -/
def externalVolume (i : Integration) : Option String :=
  match i.kind with
  | .infoSchema => none
  | .builtIn => i.config.externalVolume

/-- A text that is there and not empty. -/
def nonEmpty (s : Option String) : Option String := s.filter fun s => !s.isEmpty

/-- Where the Iceberg table of a model is stored on its volume: the root, the schema, the
identifier and, if there is one, the subpath. -/
def baseLocation (m : Model) : Except ConfigurationError String :=
  match nonEmpty m.schema with
  | none => .error (.missing .schema)
  | some schema =>
    let root := (nonEmpty m.settings.locationRoot).getD "_dbt"
    let subpath := (nonEmpty m.settings.locationSubpath).toList
    .ok ("/".intercalate ([root, schema, m.identifier] ++ subpath))

/-- The relation of a model, in some format. -/
def modelRelation (m : Model) (format : StorageFormat) : Except ConfigurationError Relation :=
  (Relation.create m.database m.schema m.identifier).map fun r => { r with format }

/-- Place a model. The volume that a model sets goes before that of the integration. -/
def place (i : Integration) (m : Model) : Except ConfigurationError Placement := do
  let location ← match i.kind, i.format with
    | .builtIn, .iceberg => (baseLocation m).map some
    | _, _ => .ok none
  let relation ← modelRelation m i.format
  return {
    relation
    catalogName := i.name
    kind := i.kind
    externalVolume := match i.kind with
      | .infoSchema => none
      | .builtIn => m.settings.externalVolume.or i.config.externalVolume
    baseLocation := location }

/-- The information schema that every project can use. -/
def defaultInfoSchema : Integration :=
  ⟨.infoSchema, { name := "INFO_SCHEMA", catalogType := "INFO_SCHEMA",
                  tableFormat := some "DEFAULT" }⟩

/-- The built-in catalog that every project can use. -/
def defaultBuiltIn : Integration :=
  ⟨.builtIn, { name := "SNOWFLAKE", catalogType := "BUILT_IN", tableFormat := some "ICEBERG" }⟩

end Integration

/-! ### The format of a run -/

/-- The table format that is recorded for the run of a model: the one it names; else Iceberg
for a model in a catalog other than the information schema. -/
def Model.runFormat (m : Model) : String :=
  match m.tableFormat, m.catalogName with
  | some format, _ => format
  | none, some catalog =>
    if Text.eqIgnoringCase (Text.trim catalog) Integration.defaultInfoSchema.name then
      StorageFormat.native.text
    else StorageFormat.iceberg.text
  | none, none => StorageFormat.native.text

end SchemaDrift
