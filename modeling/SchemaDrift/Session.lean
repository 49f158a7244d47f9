import SchemaDrift.Catalog.Registry
import SchemaDrift.Listing.CatalogEntry
import SchemaDrift.Listing.DynamicTable
import SchemaDrift.Warehouse.Basic

/-!
# Sessions

A session is a project at work on a warehouse: the rules of its engine, the parts of names it
quotes, and the catalog integrations it registered. The integrations are registered once, when
the session starts; after that a session does not change.
-/

namespace SchemaDrift

/-- A **session**. -/
structure Session where
  engine : Engine
  quoting : QuotePolicy
  registry : Registry
deriving DecidableEq

namespace Session

/-- Register the integrations that a project declares, in order; the first that is refused
ends it. -/
def registerAll (r : Registry) (cs : List CatalogConfig) : Except ConfigurationError Registry :=
  cs.foldlM (fun r c => (r.register c).map (·.1)) r

/-- Start a session with the settings of a project. -/
def start (c : Config) : Except CatalogError Session :=
  match registerAll (.withDefaults c.engine.casing) c.catalogs with
  | .ok registry => .ok { engine := c.engine, quoting := c.quotePolicy, registry }
  | .error e => .error (.configuration e)

/-! ### Models -/

/-- The placement of a model in the catalog integration it names, quoted as the session
quotes. -/
def placement (s : Session) (m : Model) : Except CatalogError (Option Placement) :=
  (s.registry.place m).map fun p =>
    p.map fun p => { p with relation := { p.relation with quoting := s.quoting } }

/-- The relation of a model that names no catalog integration. -/
def plainRelation (s : Session) (m : Model) : Except ConfigurationError Relation :=
  (Relation.create m.database m.schema m.identifier).map fun r =>
    { r with format := .ofTableFormat m.runFormat, quoting := s.quoting }

/-- The relation that a model is loaded into. -/
def relationOf (s : Session) (m : Model) : Except CatalogError Relation := do
  match ← s.placement m with
  | some p => return p.relation
  | none => (s.plainRelation m).mapError .configuration

/-! ### Looking at a warehouse -/

/-- The relations of a schema. -/
def listRelations (w : Warehouse) (schema : SchemaRef) : Except FetchError (List Relation) :=
  Listing.relations (w.listObjects schema)

/-- The relations of a schema, and warnings about those of unknown kind. -/
def listReported (w : Warehouse) (schema : SchemaRef) :
    Except FetchError (List Relation × List Diagnostic) :=
  Listing.reportedRelations (w.listObjects schema)

/-- The columns of a relation. -/
def columnsIn (w : Warehouse) (r : Relation) : Except FetchError (List Column) :=
  Listing.columns (w.fetchColumns r)

/-- The schemas of a database. -/
def listSchemas (w : Warehouse) (database : String) : Except FetchError (List String) :=
  Listing.schemas database (w.listSchemas database)

/-- The catalog entry of a relation. -/
def catalogEntry (w : Warehouse) (r : Relation) : Except FetchError (Option Listing.CatalogEntry) :=
  Listing.CatalogEntry.ofAnswers r.identifier (w.fetchMetadata r.fullyQuoted) (w.fetchColumns r)

/-- The definition of a dynamic table. -/
def dynamicTable (w : Warehouse) (r : Relation) :
    Warehouse × Except FetchError (Option Listing.DynamicTable) :=
  match Listing.DynamicTable.statement r with
  | .error e => (w, .error e)
  | .ok sql =>
    let (w, answer) := w.ask sql r.qualifiedName
    (w, Listing.DynamicTable.ofAnswer sql answer)

/-- The stored parts of a name that is searched for. -/
def search (s : Session) (database schema identifier : Option String) : RelationPath :=
  normalizePath s.engine s.quoting database schema identifier

/-- The first relation in the listing of a schema that a name finds. -/
def findRelation (s : Session) (w : Warehouse) (database : Option String)
    (schema identifier : String) : Except FetchError (Option Relation) :=
  let wanted := s.search database (some schema) (some identifier)
  (listRelations w ⟨wanted.database, wanted.schema.getD ""⟩).map fun rs =>
    rs.find? (·.isNamedBy wanted)

end Session

end SchemaDrift
