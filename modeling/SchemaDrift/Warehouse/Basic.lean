import SchemaDrift.Listing.FetchError
import SchemaDrift.Listing.Table
import SchemaDrift.Operation
import SchemaDrift.Relation.Basic

/-!
# A warehouse in memory

A warehouse answers questions about its objects and runs statements on their columns. This one
holds everything it answers with: listings of schemas, columns and metadata of relations,
schemas of databases, results of queries. An error that is set for an object is answered before
anything else is looked at. What has been run is kept in order.

Objects are found by their dotted names, exactly as these are written.

## Main laws

* `columnsOf_addColumns`: the columns of a relation are the last that were set for its name.
* `columnsOf_execute`: a statement changes the columns of its own relation and no others.
-/

namespace SchemaDrift

/-- A **warehouse** in memory. -/
structure Warehouse where
  engine : Engine := Dialect.ansi.engine
  name : String := "memory"
  /-- Whether the connection cannot be made. -/
  isUnreachable : Bool := false
  /-- Listings by the names of schemas. -/
  listings : Dictionary Table := .empty
  /-- Columns by the names of relations. -/
  columns : Dictionary (List Column) := .empty
  /-- Metadata by the names of relations. -/
  metadata : Dictionary Table := .empty
  /-- Names of schemas by the names of databases. -/
  schemas : Dictionary (List String) := .empty
  /-- Results by the texts of queries. -/
  results : Dictionary Table := .empty
  /-- Errors by the names of schemas, relations and databases. -/
  errors : Dictionary FetchError := .empty
  /-- Errors of statements by the names of columns. -/
  statementErrors : Dictionary FetchError := .empty
  /-- The queries that were asked, in order. -/
  asked : List String := []
  /-- The operations that were run, in order, each with the name of its relation. -/
  executed : List (String × Operation) := []

namespace Warehouse

/-! ### Setting up -/

/-- The columns of a listing. -/
def listingColumns : List String :=
  ["DATABASE_NAME", "SCHEMA_NAME", "NAME", "KIND", "IS_DYNAMIC", "IS_ICEBERG"]

/-- A flag in a listing. -/
def flag (b : Bool) : Value := .text (if b then "Y" else "N")

/-- The row that lists a relation. A dynamic table is listed as a table with its flag set. -/
def listingRow (r : Relation) : List Value :=
  let isDynamic := r.kind = .dynamicTable
  let kind := if isDynamic then RelationKind.table else r.kind
  [.ofOptionText r.database, .ofOptionText r.schema, .text r.identifier,
    .text (Text.upper kind.text), flag isDynamic, flag (r.format = .iceberg)]

/-- Set the listing of a schema. -/
def addListing (w : Warehouse) (schema : SchemaRef) (t : Table) : Warehouse :=
  { w with listings := w.listings.insert schema.display t }

/-- Set the columns of a relation, numbered from one. -/
def addColumns (w : Warehouse) (r : Relation) (cs : List Column) : Warehouse :=
  { w with columns := w.columns.insert r.qualifiedName (Column.number cs) }

/-- List a relation in its schema, if it has one. -/
def list (w : Warehouse) (r : Relation) : Warehouse :=
  match r.schemaRef? with
  | none => w
  | some schema =>
    let t := (w.listings.find? schema.display).getD (.withColumns listingColumns)
    w.addListing schema (t.push (listingRow r))

/-- Add a relation: list it, and set its columns. -/
def addRelation (w : Warehouse) (r : Relation) (cs : List Column) : Warehouse :=
  (w.list r).addColumns r cs

/-- Set the metadata of a relation. -/
def addMetadata (w : Warehouse) (r : Relation) (t : Table) : Warehouse :=
  { w with metadata := w.metadata.insert r.qualifiedName t }

/-- Set the schemas of a database. -/
def addSchemas (w : Warehouse) (database : String) (names : List String) : Warehouse :=
  { w with schemas := w.schemas.insert database names }

/-- Set the result of a query. -/
def addResult (w : Warehouse) (sql : String) (t : Table) : Warehouse :=
  { w with results := w.results.insert sql t }

/-- Set an error for an object. -/
def addError (w : Warehouse) (object : String) (e : FetchError) : Warehouse :=
  { w with errors := w.errors.insert object e }

/-- Set an error for the statements on a column. -/
def addStatementError (w : Warehouse) (column : String) (e : FetchError) : Warehouse :=
  { w with statementErrors := w.statementErrors.insert column e }

/-! ### Answers -/

/-- The columns that are stored for a relation. -/
def columnsOf (w : Warehouse) (r : Relation) : List Column :=
  (w.columns.find? r.qualifiedName).getD []

/-- What is found for an object, unless an error is set for it; what is said of an object that
is not there. -/
def answer {α : Type} (w : Warehouse) (object : String) (found : Option α) (missing : String) :
    Except FetchError α :=
  match w.errors.find? object, found with
  | some e, _ => .error e
  | none, some a => .ok a
  | none, none => .error ⟨.objectNotFound, missing⟩

/-- The listing of a schema. -/
def listObjects (w : Warehouse) (schema : SchemaRef) : Except FetchError Table :=
  let name := schema.display
  w.answer name (w.listings.find? name) ("Schema '" ++ name ++ "' does not exist or not authorized")

/-- The columns of a relation. -/
def fetchColumns (w : Warehouse) (r : Relation) : Except FetchError (List Column) :=
  w.answer r.qualifiedName (w.columns.find? r.qualifiedName) r.qualifiedName

/-- The metadata of a relation. -/
def fetchMetadata (w : Warehouse) (r : Relation) : Except FetchError Table :=
  w.answer r.qualifiedName (w.metadata.find? r.qualifiedName) r.qualifiedName

/-- The schemas of a database. -/
def listSchemas (w : Warehouse) (database : String) : Except FetchError Table :=
  let missing := "Database '" ++ database ++ "' does not exist"
  (w.answer database (w.schemas.find? database) missing).map fun names =>
    ⟨["NAME"], names.map fun name => [.text name]⟩

/-- Ask a query about an object. A query without a result is answered by an empty table. -/
def ask (w : Warehouse) (sql object : String) : Warehouse × Except FetchError Table :=
  ({ w with asked := w.asked ++ [sql] },
    match w.errors.find? object with
    | some e => .error e
    | none => .ok ((w.results.find? sql).getD default))

/-- Try the connection. -/
def testConnection (w : Warehouse) : Except FetchError Unit :=
  if w.isUnreachable then .error ⟨.network, "Simulated connection failure"⟩ else .ok ()

/-- **Run** one operation on a relation. -/
def execute (w : Warehouse) (r : Relation) (op : Operation) : Except FetchError Warehouse :=
  match w.statementErrors.find? op.column.name with
  | some e => .error e
  | none =>
    match w.columns.find? r.qualifiedName with
    | none => .error ⟨.objectNotFound, r.qualifiedName⟩
    | some cs => .ok
        { w with
          columns := w.columns.insert r.qualifiedName (op.applyTo w.engine cs)
          executed := w.executed ++ [(r.qualifiedName, op)] }

/-! ### Laws -/

/-- The columns of a relation are those that were last set for its name. -/
theorem columnsOf_addColumns (w : Warehouse) (r s : Relation) (cs : List Column) :
    (w.addColumns r cs).columnsOf s
      = if s.qualifiedName = r.qualifiedName then Column.number cs else w.columnsOf s := by
  by_cases h : s.qualifiedName = r.qualifiedName <;> simp [columnsOf, addColumns, h]

/-- A statement that is run changes the columns of the relation it names and no others. -/
theorem columnsOf_execute {w w' : Warehouse} {r : Relation} {op : Operation}
    (h : w.execute r op = .ok w') (s : Relation) :
    w'.columnsOf s
      = if s.qualifiedName = r.qualifiedName then op.applyTo w.engine (w.columnsOf s)
        else w.columnsOf s := by
  unfold execute at h
  split at h
  · cases h
  · split at h
    · cases h
    · next cs hcs =>
      obtain rfl := Except.ok.inj h
      by_cases hs : s.qualifiedName = r.qualifiedName <;> simp [columnsOf, hs, hcs]

end Warehouse

end SchemaDrift
