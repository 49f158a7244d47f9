import SchemaDrift.Data.Decode

/-!
# Settings of a node

A node of a project is configured by named settings. The ones that matter here have fields of
their own; every other setting is kept as it came.
-/

namespace SchemaDrift

/-- The **settings** of a node. -/
structure NodeSettings where
  enabled : Bool := true
  /-- How the node is built, such as `table` or `incremental`. -/
  materialized : Option String := none
  /-- The policy for drifted columns, as it was written. -/
  onSchemaChange : Option String := none
  /-- The catalog integration that the table lives in. -/
  catalogName : Option String := none
  /-- The older spelling of `catalogName`. -/
  catalog : Option String := none
  tableFormat : Option String := none
  externalVolume : Option String := none
  /-- The first part of the table's storage location. -/
  locationRoot : Option String := none
  /-- The last part of the table's storage location. -/
  locationSubpath : Option String := none
  /-- All other settings. -/
  others : Dictionary Value := .empty

namespace NodeSettings

/-- The settings of a node that sets nothing. -/
instance : Inhabited NodeSettings := ⟨{}⟩

/-- The names of the settings that have a field. -/
def names : List String :=
  ["enabled", "materialized", "on_schema_change", "catalog_name", "catalog", "table_format",
    "external_volume", "base_location_root", "base_location_subpath"]

/-- Settings as data: absent ones are null, and the others stand beside those with a field. -/
def toData (s : NodeSettings) : Data :=
  .record ([("enabled", .bool s.enabled), ("materialized", .ofOptionText s.materialized),
      ("on_schema_change", .ofOptionText s.onSchemaChange),
      ("catalog_name", .ofOptionText s.catalogName), ("catalog", .ofOptionText s.catalog),
      ("table_format", .ofOptionText s.tableFormat),
      ("external_volume", .ofOptionText s.externalVolume),
      ("base_location_root", .ofOptionText s.locationRoot),
      ("base_location_subpath", .ofOptionText s.locationSubpath)]
    ++ s.others.entries.map fun e => (e.1, e.2.data))

/-- Read settings. They are written with names only. -/
def ofData? (form : Form) (d : Data) : Option NodeSettings := do
  let f ← d.namedFields? form names
  let enabled ← f.defaulted "enabled" true Data.bool?
  let materialized ← f.optionalOrAbsent "materialized" Data.text?
  let onSchemaChange ← f.optionalOrAbsent "on_schema_change" Data.text?
  let catalogName ← f.optionalOrAbsent "catalog_name" Data.text?
  let catalog ← f.optionalOrAbsent "catalog" Data.text?
  let tableFormat ← f.optionalOrAbsent "table_format" Data.text?
  let externalVolume ← f.optionalOrAbsent "external_volume" Data.text?
  let locationRoot ← f.optionalOrAbsent "base_location_root" Data.text?
  let locationSubpath ← f.optionalOrAbsent "base_location_subpath" Data.text?
  let others ← Data.dictionary? Value.of? (.record (f.others names))
  return { enabled, materialized, onSchemaChange, catalogName, catalog, tableFormat,
           externalVolume, locationRoot, locationSubpath, others }

end NodeSettings

end SchemaDrift
