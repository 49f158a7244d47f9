import SchemaDrift.Identifier.Normalize
import SchemaDrift.Relation.Kind
import SchemaDrift.Text.Blank

/-!
# Relations

A relation is a named object of a warehouse: its identifier, the schema and database it lies in
as far as these are known, its kind, its storage format, and which parts of its name are quoted
when it is written in a statement.

## Main laws

* `path_of_unquoted`: a name without quote characters that is quoted in every part is stored as
  it stands.
* `isNamedBy_iff`: a search finds a relation exactly when every part it names agrees.
-/

namespace SchemaDrift

/-- A schema, in a database unless that of the connection is meant. -/
structure SchemaRef where
  database : Option String
  schema : String
deriving DecidableEq, Repr

namespace SchemaRef

/-- The dotted name of a schema. -/
def display (s : SchemaRef) : String :=
  match s.database with
  | some database => s!"{database}.{s.schema}"
  | none => s.schema

/-- A schema as data. -/
def toData (s : SchemaRef) : Data :=
  .record [("database", .ofOptionText s.database), ("schema", .text s.schema)]

/-- Read a schema. -/
def ofData? (form : Form) (d : Data) : Option SchemaRef := do
  let f ← d.fields? form ["database", "schema"]
  let database ← f.optional "database" Data.text?
  let schema ← f.required "schema" Data.text?
  return ⟨database, schema⟩

end SchemaRef

/-- A **relation**. -/
structure Relation where
  database : Option String
  schema : Option String
  identifier : String
  kind : RelationKind := .table
  format : StorageFormat := .native
  quoting : QuotePolicy := .all
deriving DecidableEq, Repr

namespace Relation

/-- A native table with every part of its name quoted. Empty names of a schema or database
stand for none; a blank identifier is refused. -/
def create (database schema : Option String) (identifier : String) :
    Except ConfigurationError Relation :=
  if Text.isBlankText identifier then .error (.empty .identifier)
  else .ok
    { database := database.filter fun s => !s.isEmpty
      schema := schema.filter fun s => !s.isEmpty
      identifier }

/-- Whether a relation was **created**, whatever has been said since of its kind, its format and
its quoting. -/
def IsCreated (r : Relation) : Prop :=
  ∃ database schema identifier made, create database schema identifier = .ok made
    ∧ r = { made with kind := r.kind, format := r.format, quoting := r.quoting }

/-- The parts of the name that are there, from the outermost in, with whether each is quoted. -/
def nameParts (r : Relation) : List (String × Bool) :=
  (r.database.map (·, r.quoting.database)).toList ++ (r.schema.map (·, r.quoting.schema)).toList
    ++ [(r.identifier, r.quoting.identifier)]

/-- The dotted name of a relation, without quotes. -/
def qualifiedName (r : Relation) : String := dottedName r.database r.schema r.identifier

/-- The name of a relation in a statement. -/
def render (e : Engine) (r : Relation) : String :=
  ".".intercalate (r.nameParts.map fun part => if part.2 then e.quote part.1 else part.1)

/-- The same relation with every part of its name quoted. -/
def fullyQuoted (r : Relation) : Relation := { r with quoting := .all }

/-- The schema that a relation lies in. -/
def schemaRef? (r : Relation) : Option SchemaRef := r.schema.map fun s => ⟨r.database, s⟩

/-- The parts of the name as they are stored. -/
def path (e : Engine) (r : Relation) : RelationPath :=
  normalizePath e r.quoting r.database r.schema (some r.identifier)

/-- Whether a relation has every part that a search names. Parts that the search leaves out may
be anything. -/
def isNamedBy (r : Relation) (search : RelationPath) : Bool :=
  (search.database.isNone || search.database = r.database)
    && (search.schema.isNone || search.schema = r.schema)
    && (search.identifier.isNone || search.identifier = some r.identifier)

/-! ### Laws -/

/-- What is said of the parts of a name is said of each part that is there. -/
theorem forall_mem_nameParts {r : Relation} {p : String × Bool → Prop} :
    (∀ part ∈ r.nameParts, p part) ↔ (∀ s ∈ r.database, p (s, r.quoting.database))
      ∧ (∀ s ∈ r.schema, p (s, r.quoting.schema)) ∧ p (r.identifier, r.quoting.identifier) := by
  rw [nameParts]
  cases r.database <;> cases r.schema <;> simp

/-- A name whose parts carry no quote characters, with every part quoted, is stored as it
stands. -/
theorem path_of_unquoted {e : Engine} {r : Relation}
    (hq : r.quoting = .all) (h : ∀ part ∈ r.nameParts, e.isQuoted part.1 = false) :
    r.path e = ⟨r.database, r.schema, some r.identifier⟩ := by
  have hplain : ∀ o : Option String, (∀ s ∈ o, e.isQuoted s = false) →
      o.map (normalizePart e true) = o := by
    intro o hbare
    have hkept : ∀ s ∈ o, normalizePart e true s = s := fun s hs => by
      simp [normalizePart, hbare s hs]
    rw [Option.map_congr hkept, Option.map_id']
  obtain ⟨hdatabase, hschema, hidentifier⟩ := forall_mem_nameParts.mp h
  have hname : ∀ s ∈ some r.identifier, e.isQuoted s = false := fun s hs =>
    Option.some.inj hs ▸ hidentifier
  rw [path, normalizePath, hq, QuotePolicy.all, hplain _ hdatabase, hplain _ hschema,
    hplain _ hname]

/-- A name that is not empty does not stand for none. -/
theorem filter_nonempty_of_ne {name : Option String} (h : name ≠ some "") :
    (name.filter fun s => !s.isEmpty) = name := by
  cases name with
  | none => rfl
  | some s =>
    have hne : s ≠ "" := fun hnil => h (congrArg some hnil)
    simp [Option.filter_some, hne]

/-- Names that are neither empty nor blank are kept as they are. -/
theorem create_eq_ok {database schema : Option String} {identifier : String}
    (hdatabase : database ≠ some "") (hschema : schema ≠ some "")
    (hblank : Text.isBlankText identifier = false) :
    create database schema identifier = .ok { database, schema, identifier } := by
  rw [create, if_neg (Bool.eq_false_iff.mp hblank), filter_nonempty_of_ne hdatabase,
    filter_nonempty_of_ne hschema]

/-- A relation can be created exactly when no part of its name is empty and the identifier is not
blank. -/
theorem isCreated_iff {r : Relation} :
    r.IsCreated ↔ r.database ≠ some "" ∧ r.schema ≠ some ""
      ∧ Text.isBlankText r.identifier = false := by
  have hfilter : ∀ o : Option String, (o.filter fun s => !s.isEmpty) ≠ some "" := by
    intro o h
    simpa using (Option.filter_eq_some_iff.mp h).2
  constructor
  · rintro ⟨database, schema, identifier, made, hmade, hr⟩
    rw [create] at hmade
    split at hmade
    · cases hmade
    · next hblank =>
      obtain rfl := Except.ok.inj hmade
      rw [hr]
      exact ⟨hfilter database, hfilter schema, Bool.eq_false_iff.mpr hblank⟩
  · rintro ⟨hdatabase, hschema, hblank⟩
    exact ⟨r.database, r.schema, r.identifier, _, create_eq_ok hdatabase hschema hblank, rfl⟩

instance (r : Relation) : Decidable r.IsCreated := decidable_of_iff _ isCreated_iff.symm

/-- A search finds a relation exactly when every part it names is that of the relation. -/
theorem isNamedBy_iff {r : Relation} {p : RelationPath} :
    r.isNamedBy p = true ↔ (∀ s ∈ p.database, r.database = some s)
      ∧ (∀ s ∈ p.schema, r.schema = some s) ∧ (∀ s ∈ p.identifier, r.identifier = s) := by
  have part (o a : Option String) :
      (o.isNone || decide (o = a)) = true ↔ ∀ s ∈ o, a = some s := by
    cases o
    · simp
    · simp [eq_comm]
  simp [isNamedBy, part, and_assoc]

/-! ### As data -/

/-- A relation as data. -/
def toData (r : Relation) : Data :=
  .record [("database", .ofOptionText r.database), ("schema", .ofOptionText r.schema),
    ("identifier", .text r.identifier), ("kind", .text r.kind.text),
    ("storage_format", .text r.format.dataText), ("quote_policy", r.quoting.toData)]

/-- Read a relation. -/
def ofData? (form : Form) (d : Data) : Option Relation := do
  let f ← d.fields? form
    ["database", "schema", "identifier", "kind", "storage_format", "quote_policy"]
  let database ← f.optional "database" Data.text?
  let schema ← f.optional "schema" Data.text?
  let identifier ← f.required "identifier" Data.text?
  let kind ← f.required "kind" (RelationKind.ofData? form)
  let format ← f.required "storage_format" (StorageFormat.ofData? form)
  let quoting ← f.required "quote_policy" (QuotePolicy.ofData? form)
  return { database, schema, identifier, kind, format, quoting }

end Relation

end SchemaDrift
