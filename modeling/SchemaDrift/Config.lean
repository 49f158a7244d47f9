import SchemaDrift.Diagnostic
import SchemaDrift.Identifier.Normalize

/-!
# Project settings

What a project says about itself: the dialect of its engine, which parts of names are quoted,
the severities it gives to findings, how its warehouse is reached, and the catalog integrations
it declares. Everything may be left out.
-/

namespace SchemaDrift

namespace Dialect

/-- All dialects. -/
def all : List Dialect := [.snowflake, .postgres, .bigQuery, .athena, .ansi]

/-- The name of a dialect in settings. -/
def text : Dialect → String
  | .snowflake => "snowflake"
  | .postgres => "postgres"
  | .bigQuery => "bigquery"
  | .athena => "athena"
  | .ansi => "ansi"

/-- The name of a dialect for a reader. -/
def title : Dialect → String
  | .snowflake => "Snowflake"
  | .postgres => "Postgres"
  | .bigQuery => "BigQuery"
  | .athena => "Athena"
  | .ansi => "Ansi"

/-- The dialect of a project that names none. -/
instance : Inhabited Dialect := ⟨.ansi⟩

/-- Read a dialect. -/
def ofData? (form : Form) (d : Data) : Option Dialect :=
  d.choice? form (all.map fun x => (x.text, x))

end Dialect

/-- A catalog integration as a project declares it. -/
structure CatalogConfig where
  name : String
  catalogType : String
  tableFormat : Option String := none
  externalVolume : Option String := none
deriving DecidableEq, Repr

/-- How the warehouse of a project is reached: its type, and settings that depend on the type. -/
structure WarehouseConfig where
  type : String
  settings : Dictionary String
deriving DecidableEq

/-- The **settings** of a project. -/
structure Config where
  dialect : Dialect := default
  quoting : Option QuotePolicy := none
  severity : SeverityOverrides := {}
  warehouse : Option WarehouseConfig := none
  catalogs : List CatalogConfig := []
deriving DecidableEq

namespace Config

/-- The rules of the project's engine. -/
def engine (c : Config) : Engine := c.dialect.engine

/-- Which parts of names are quoted: as the project says, else as its dialect does. -/
def quotePolicy (c : Config) : QuotePolicy := c.quoting.getD c.dialect.defaultQuoting

end Config

/-! ### As data -/

/-- A catalog integration as data. -/
def CatalogConfig.toData (c : CatalogConfig) : Data :=
  .record [("name", .text c.name), ("catalog_type", .text c.catalogType),
    ("table_format", .ofOptionText c.tableFormat),
    ("external_volume", .ofOptionText c.externalVolume)]

/-- Read a catalog integration. -/
def CatalogConfig.ofData? (form : Form) (d : Data) : Option CatalogConfig := do
  let f ← d.fields? form ["name", "catalog_type", "table_format", "external_volume"]
  let name ← f.required "name" Data.text?
  let catalogType ← f.required "catalog_type" Data.text?
  let tableFormat ← f.optionalOrAbsent "table_format" Data.text?
  let externalVolume ← f.optionalOrAbsent "external_volume" Data.text?
  return { name, catalogType, tableFormat, externalVolume }

/-- Warehouse settings as data: the type first, then the settings beside it. -/
def WarehouseConfig.toData (w : WarehouseConfig) : Data :=
  .record (("type", .text w.type) :: w.settings.entries.map fun e => (e.1, .text e.2))

/-- Read warehouse settings. They are written with names; every name but `type` is a setting. -/
def WarehouseConfig.ofData? (form : Form) (d : Data) : Option WarehouseConfig := do
  let f ← d.namedFields? form ["type"]
  let type ← f.required "type" Data.text?
  let settings ← Data.dictionary? Data.text? (.record (f.others ["type"]))
  return ⟨type, settings⟩

/-- Severity overrides as data. -/
def SeverityOverrides.toData (o : SeverityOverrides) : Data :=
  .record [("overrides", .record (o.entries.entries.map fun e => (e.1, .text e.2.text)))]

/-- Read severity overrides. Names that are no codes are kept. -/
def SeverityOverrides.ofData? (form : Form) (d : Data) : Option SeverityOverrides := do
  let f ← d.fields? form ["overrides"]
  let entries ← f.required "overrides" (Data.dictionary? (Severity.ofData? form))
  return ⟨entries⟩

/-- Project settings as data; what is not set is null. -/
def Config.toData (c : Config) : Data :=
  .record [("dialect", .text c.dialect.text), ("quoting", .ofOption QuotePolicy.toData c.quoting),
    ("severity", c.severity.toData), ("warehouse", .ofOption WarehouseConfig.toData c.warehouse),
    ("catalogs", .list (c.catalogs.map CatalogConfig.toData))]

/-- Read project settings. -/
def Config.ofData? (form : Form) (d : Data) : Option Config := do
  let f ← d.fields? form ["dialect", "quoting", "severity", "warehouse", "catalogs"]
  let dialect ← f.defaulted "dialect" default (Dialect.ofData? form)
  let quoting ← f.optionalOrAbsent "quoting" (QuotePolicy.ofData? form)
  let severity ← f.defaulted "severity" {} (SeverityOverrides.ofData? form)
  let warehouse ← f.optionalOrAbsent "warehouse" (WarehouseConfig.ofData? form)
  let catalogs ← f.defaulted "catalogs" [] (Data.list? (CatalogConfig.ofData? form))
  return { dialect, quoting, severity, warehouse, catalogs }

end SchemaDrift
