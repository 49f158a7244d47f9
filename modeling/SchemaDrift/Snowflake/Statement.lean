import SchemaDrift.Identifier.Literal
import SchemaDrift.Operation
import SchemaDrift.Relation.Basic

/-!
# Statements for Snowflake

The statements that list the objects of a schema, read the columns and the metadata of a
relation, and add or drop a column. Names are quoted with quotation marks; a name that is
compared with a stored name is written as a text literal.
-/

namespace SchemaDrift.Snowflake

/-- The rules of Snowflake. -/
def engine : Engine := Dialect.snowflake.engine

/-- The quoted name of a schema. -/
def schemaName (s : SchemaRef) : String :=
  ".".intercalate ((s.database.map engine.quote).toList ++ [engine.quote s.schema])

/-- List the objects of a schema. -/
def listObjects (s : SchemaRef) : String := "show objects in schema " ++ schemaName s

/-- Read the columns of a relation, in the order of their positions. A relation without a schema
is looked for under the empty name. -/
def readColumns (r : Relation) : String :=
  let view := ".".intercalate ((r.database.map engine.quote).toList
    ++ ["INFORMATION_SCHEMA.COLUMNS"])
  "select column_name, data_type, ordinal_position from " ++ view ++ " where table_schema = "
    ++ textLiteral (r.schema.getD "") ++ " and table_name = " ++ textLiteral r.identifier
    ++ " order by ordinal_position"

/-- Read the metadata of a relation. -/
def readMetadata (r : Relation) : String :=
  (match r.schemaRef? with
    | some s => listObjects s
    | none => "show objects") ++ " like " ++ textLiteral r.identifier

/-- Run an operation on a relation. -/
def alter (r : Relation) (op : Operation) : String :=
  let table := "alter table " ++ r.render engine
  match op with
  | .add c => table ++ " add column " ++ op.quotedName engine ++ " " ++ c.dataType
  | .drop _ => table ++ " drop column " ++ op.quotedName engine

end SchemaDrift.Snowflake
