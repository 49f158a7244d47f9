import SchemaDrift.Identifier.Literal
import SchemaDrift.Listing.FetchError
import SchemaDrift.Listing.Table
import SchemaDrift.Relation.Basic

/-!
# Dynamic tables

How a dynamic table is defined and refreshed, as the warehouse tells when it is asked with a
statement of its own.
-/

namespace SchemaDrift.Listing

/-- The definition of a **dynamic table**. -/
structure DynamicTable where
  name : String
  schema : Option String
  database : Option String
  /-- The query that defines the table. -/
  text : Option String
  /-- How far the table may lag behind. -/
  targetLag : Option String
  warehouse : Option String
  refreshMode : Option String
deriving DecidableEq, Repr

namespace DynamicTable

/-- The statement that asks for a dynamic table. The identifier is given as a pattern; schema
and database are quoted where the relation says so. -/
def statement (r : Relation) : Except FetchError String :=
  match r.schema with
  | none =>
    let name := r.qualifiedName
    .error ⟨.configuration, s!"Dynamic table {name} has no schema"⟩
  | some schema =>
    let e := Dialect.snowflake.engine
    let part := fun (name : String) (quoted : Bool) => if quoted then e.quote name else name
    let scope := ".".intercalate
      ((r.database.map (part · r.quoting.database)).toList ++ [part schema r.quoting.schema])
    .ok ("show dynamic tables like " ++ textLiteral r.identifier ++ " in schema " ++ scope)

/-- What the answer to a statement says about the dynamic table. -/
def ofAnswer (sql : String) (answer : Except FetchError Table) :
    Except FetchError (Option DynamicTable) :=
  match answer with
  | .error e =>
    .error ⟨.query, "Could not get dynamic table metadata: " ++ sql ++ " failed\n" ++ e.message⟩
  | .ok t =>
    let t := t.lowerNames
    if t.isEmpty then .ok none else
    let field := fun name => (t.value 0 name).cellText?
    match field "name" with
    | none => .error ⟨.invalidResponse, "Missing name in: " ++ sql⟩
    | some name => .ok (some
        { name
          schema := field "schema_name"
          database := field "database_name"
          text := field "text"
          targetLag := field "target_lag"
          warehouse := field "warehouse"
          refreshMode := field "refresh_mode" })

/-- The definition of a dynamic table as data. -/
def toData (d : DynamicTable) : Data :=
  .record [("name", .text d.name), ("schema_name", .ofOptionText d.schema),
    ("database_name", .ofOptionText d.database), ("text", .ofOptionText d.text),
    ("target_lag", .ofOptionText d.targetLag), ("warehouse", .ofOptionText d.warehouse),
    ("refresh_mode", .ofOptionText d.refreshMode)]

end DynamicTable

end SchemaDrift.Listing
