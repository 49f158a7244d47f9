import SchemaDrift.Diagnostic
import SchemaDrift.Listing.FetchError
import SchemaDrift.Listing.Table
import SchemaDrift.Relation.Basic

/-!
# Rows of a listing

A schema is listed as a table with one row per object. Such a row is **classified** as a
relation:

* the kind is the one named by the row, or `external` when the row names none that is known; a
  table with the dynamic flag is a dynamic table;
* the format is decided by the Iceberg flag alone;
* listed names are spelled as the warehouse stores them, so every part is quoted.

A kind that is not known is reported as a warning.
-/

namespace SchemaDrift.Listing

/-- A **row** of a listing. -/
structure Row where
  database : Value := .null
  schema : Value := .null
  name : Value := .null
  kind : Value := .null
  isDynamic : Value := .null
  isIceberg : Value := .null

namespace Row

/-- A row of texts, with its flags. -/
def ofTexts (database schema name kind : String) (isDynamic isIceberg : Value) : Row :=
  { database := .text database, schema := .text schema, name := .text name, kind := .text kind,
    isDynamic, isIceberg }

/-- A row of texts whose flags say no. -/
def plain (database schema name kind : String) : Row :=
  ofTexts database schema name kind (.text "N") (.text "N")

/-- The rows of a table, whatever the case of its column names. -/
def ofTable (t : Table) : List Row :=
  let t := t.lowerNames
  t.rows.map fun row =>
    { database := t.cell row "database_name", schema := t.cell row "schema_name",
      name := t.cell row "name", kind := t.cell row "kind",
      isDynamic := t.cell row "is_dynamic", isIceberg := t.cell row "is_iceberg" }

/-- The kind that a row names, if it is known. -/
def namedKind? (r : Row) : Option RelationKind := r.kind.cellText?.bind RelationKind.parse?

/-- The kind of the relation that a row lists. -/
def relationKind (r : Row) : RelationKind :=
  match r.namedKind? with
  | some .table => if r.isDynamic.saysYes then .dynamicTable else .table
  | some kind => kind
  | none => .external

/-- **Classify** a row. -/
def classify (r : Row) : Except FetchError Relation :=
  match r.name.cellText? with
  | none => .error ⟨.invalidResponse, "Listing row without a name"⟩
  | some name =>
    match Relation.create r.database.cellText? r.schema.cellText? name with
    | .error e => .error ⟨.invalidResponse, e.message⟩
    | .ok relation => .ok
        { relation with
          kind := r.relationKind
          format := if r.isIceberg.saysYes then .iceberg else .native }

/-- The dotted name of what a row lists, of the parts that have a text. -/
def qualifiedName (r : Row) : String :=
  ".".intercalate ([r.database, r.schema, r.name].filterMap (·.cellText?))

/-- The warning about a row whose kind is not known. -/
def unknownKind? (r : Row) : Option Diagnostic :=
  match r.namedKind? with
  | some _ => none
  | none =>
    let name := r.qualifiedName
    let message := match r.kind.cellText? with
      | some kind => s!"{name} has unrecognized kind '{kind}', treated as external"
      | none => s!"{name} has no kind, treated as external"
    some { code := .relationKindUnknown, severity := .warn, message, relation := some name }

end Row

end SchemaDrift.Listing
