import SchemaDrift.Proofs.Catalog.Placements

/-!
# The format that is recorded and the format of the relation

Two decisions are made about the storage format of a model. What is **recorded** for its run is
decided from its own settings: the table format it names, or else what the name of its catalog
implies. The format of its **relation** is decided by the catalog integration it is placed in: the
table format that was declared there, or else that of the type of the catalog.

* `StorageFormat.ofTableFormat_runFormat`: what is recorded for a model in a catalog.
* `Session.exists_format_of_relationOf`: the format of its relation, which is that of the last
  declaration under the folded name of the catalog.
* `Session.recorded_format_eq_iff`: without a catalog the first decision is used for both. In a
  catalog the two agree exactly when what the settings of the model imply is the format of this
  declaration.

Neither decision sees what the other is made of, so they can differ: over a table format that only
one of them names, and over a catalog whose name does not tell its type.
-/

namespace SchemaDrift

/-! ### The two decisions -/

/-- The **format of a declaration**: the table format that it sets, or else that of its type. -/
def CatalogConfig.format (c : CatalogConfig) : StorageFormat :=
  match c.tableFormat.filter fun s => !Text.isBlankText s with
  | some s => .ofTableFormat s
  | none => if Text.upper (Text.trim c.catalogType) = "BUILT_IN" then .iceberg else .native

/-- The format that the settings of a model **imply** in a catalog: the table format that it names,
or else native for the name of the information schema and Iceberg for every other. -/
def Model.impliedFormat (m : Model) (catalog : String) : StorageFormat :=
  match m.tableFormat with
  | some s => .ofTableFormat s
  | none =>
    if Text.eqIgnoringCase (Text.trim catalog) "INFO_SCHEMA" then .native else .iceberg

@[simp]
theorem StorageFormat.ofTableFormat_text (f : StorageFormat) : ofTableFormat f.text = f := by
  cases f <;> decide +kernel

/-- What is recorded for a model in a catalog is what its settings imply there. -/
theorem StorageFormat.ofTableFormat_runFormat {m : Model} {name : String}
    (h : m.catalogName = some name) : ofTableFormat m.runFormat = m.impliedFormat name := by
  rw [Model.runFormat, Model.impliedFormat, h]
  cases m.tableFormat with
  | some s => rfl
  | none =>
    change ofTableFormat (if Text.eqIgnoringCase (Text.trim name) "INFO_SCHEMA" then _ else _) = _
    split
    · exact ofTableFormat_text .native
    · exact ofTableFormat_text .iceberg

/-- An integration has the format of the declaration that it realizes. -/
theorem Integration.Realizes.format_eq {i : Integration} {casing : Casing} {c : CatalogConfig}
    (h : i.Realizes casing c) : i.format = c.format := by
  rw [CatalogConfig.format, ← h.kind]
  cases hset : c.tableFormat.filter fun s => !Text.isBlankText s with
  | some s =>
    obtain ⟨hformat, hblank⟩ := Option.filter_eq_some_iff.mp hset
    exact h.format_of_set s hformat (by simpa using hblank)
  | none =>
    have hunset : ∀ s, c.tableFormat = some s → Text.isBlankText s = true := fun s hs => by
      simpa using Option.filter_eq_none_iff.mp hset s hs
    rw [h.format_of_unset hunset]
    cases i.kind <;> rfl

namespace Session

variable {config : Config} {s : Session} {m : Model} {r : Relation} {name : String}

/-- A model in a catalog has a relation in the format of the last declaration that was accepted
under the folded name of the catalog. -/
theorem exists_format_of_relationOf (hstart : start config = .ok s)
    (hcatalog : m.catalogName = some name) (hrelation : s.relationOf m = .ok r) :
    ∃ c, Registry.lastUnder? config.engine.casing (Registry.defaults ++ config.catalogs)
        (config.engine.casing.foldedName name) = some c ∧ r.format = c.format := by
  obtain ⟨-, rfl⟩ := start_eq_ok_iff.mp hstart
  rw [relationOf_of_catalogName hcatalog] at hrelation
  cases hplace : (ofConfig config).registry.placeIn name m with
  | error e =>
    rw [hplace] at hrelation
    cases hrelation
  | ok p =>
    rw [hplace] at hrelation
    obtain rfl := Except.ok.inj hrelation
    obtain ⟨i, hi, hplaced⟩ := Registry.exists_lookup_of_placeIn hplace
    cases hlast : Registry.lastUnder? config.engine.casing (Registry.defaults ++ config.catalogs)
        (config.engine.casing.foldedName name) with
    | none =>
      rw [ofConfig, Registry.lookup_declared_of_lastUnder?_eq_none hlast] at hi
      cases hi
    | some c =>
      obtain ⟨j, hj, hrealizes⟩ := Registry.lookup_declared_of_lastUnder? hlast
      obtain rfl : j = i := Except.ok.inj (hj.symm.trans hi)
      exact ⟨c, rfl, (Integration.of_place hplaced).2.trans hrealizes.format_eq⟩

/-- Without a catalog the relation has the format that is recorded. -/
theorem format_of_relationOf_of_catalogName_eq_none (hcatalog : m.catalogName = none)
    (hrelation : s.relationOf m = .ok r) : .ofTableFormat m.runFormat = r.format := by
  rw [relationOf_of_catalogName_eq_none hcatalog, plainRelation, Relation.create] at hrelation
  split at hrelation
  · cases hrelation
  · rw [← Except.ok.inj hrelation]

/-- **When the format that is recorded is that of the relation.** Without a catalog, always. In a
catalog, exactly when the settings of the model imply the format of the last declaration that was
accepted under the folded name of the catalog, which is the format of the relation. -/
theorem recorded_format_eq_iff (hstart : start config = .ok s)
    (hrelation : s.relationOf m = .ok r) :
    (m.catalogName = none → .ofTableFormat m.runFormat = r.format)
    ∧ ∀ name, m.catalogName = some name →
      ∃ c, Registry.lastUnder? config.engine.casing (Registry.defaults ++ config.catalogs)
          (config.engine.casing.foldedName name) = some c
        ∧ r.format = c.format
        ∧ (.ofTableFormat m.runFormat = r.format ↔ m.impliedFormat name = c.format) := by
  refine ⟨fun hcatalog => format_of_relationOf_of_catalogName_eq_none hcatalog hrelation,
    fun name hcatalog => ?_⟩
  obtain ⟨c, hlast, hformat⟩ := exists_format_of_relationOf hstart hcatalog hrelation
  refine ⟨c, hlast, hformat, ?_⟩
  rw [StorageFormat.ofTableFormat_runFormat hcatalog, hformat]

/-! ### A project with a catalog of its own -/

/-- The settings of a project that declares a built-in catalog. -/
def lakeConfig : Config where
  dialect := .snowflake
  catalogs := [{ name := "lake", catalogType := "built_in" }]

/-- A model in a catalog of this project, with or without a table format. -/
def eventsIn (catalog : String) (tableFormat : Option String) : Model :=
  { Model.ofName (some "core") "events" with settings := { catalog, tableFormat } }

/-- An Iceberg table of this project. -/
def icebergEvents : Relation where
  database := none
  schema := some "core"
  identifier := "events"
  format := .iceberg
  quoting := .none

theorem start_lakeConfig : start lakeConfig = .ok (ofConfig lakeConfig) :=
  start_of_forall (by decide +kernel)

theorem relationOf_eventsIn_lake :
    (ofConfig lakeConfig).relationOf (eventsIn " Lake" none) = .ok icebergEvents :=
  eq_ok_of_toOption (by decide +kernel)

/-- A model in the built-in catalog that names no table format has an Iceberg table, and that is
recorded. -/
theorem recorded_format_eq_lake :
    start lakeConfig = .ok (ofConfig lakeConfig)
      ∧ (ofConfig lakeConfig).relationOf (eventsIn " Lake" none) = .ok icebergEvents
      ∧ .ofTableFormat (eventsIn " Lake" none).runFormat = icebergEvents.format := by
  have hrecorded := recorded_format_eq_iff start_lakeConfig relationOf_eventsIn_lake
  obtain ⟨c, -, hformat, hagrees⟩ := hrecorded.2 " Lake" rfl
  refine ⟨start_lakeConfig, relationOf_eventsIn_lake, hagrees.mpr ?_⟩
  rw [← hformat]
  decide +kernel

/-- A model that names a native table format, in the built-in catalog of every project, has an
Iceberg table all the same, and it is recorded that the table is native. -/
theorem recorded_format_ne_snowflake :
    start lakeConfig = .ok (ofConfig lakeConfig)
      ∧ (ofConfig lakeConfig).relationOf (eventsIn "SNOWFLAKE" (some "default"))
        = .ok icebergEvents
      ∧ .ofTableFormat (eventsIn "SNOWFLAKE" (some "default")).runFormat
        ≠ icebergEvents.format :=
  ⟨start_lakeConfig, eq_ok_of_toOption (by decide +kernel), by decide +kernel⟩

end Session

end SchemaDrift
