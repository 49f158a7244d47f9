import SchemaDrift.Data.Decode
import SchemaDrift.Identifier.Engine
import SchemaDrift.Json.Printer

/-!
# Names of relations, normalized

A relation is named by up to three parts: database, schema and identifier. A quote policy says
for each part whether names are meant to be quoted. `normalizePart` gives the spelling under
which the engine stores a part: what stands between quotes is taken as it is, a part that is
not meant to be quoted is folded, and any other part is left alone.
-/

namespace SchemaDrift

/-- A part of a relation's name. -/
inductive NamePart where
  | database
  | schema
  | identifier
deriving DecidableEq, Repr

/-- The name of a part. -/
def NamePart.text : NamePart → String
  | .database => "database"
  | .schema => "schema"
  | .identifier => "identifier"

/-- What can be wrong with names and settings. -/
inductive ConfigurationError where
  /-- A part of a name is not there. -/
  | missing (part : NamePart)
  /-- A part of a name is blank. -/
  | empty (part : NamePart)
  /-- The setting for quoted seed columns is neither a truth value nor null. -/
  | notBoolean (value : Value)
  /-- No policy has this name. -/
  | unknownPolicy (name : String)
  /-- A catalog integration has a blank name. -/
  | emptyCatalogName
  /-- No kind of catalog integration has this name. -/
  | unknownCatalogType (name : String)

/-- What is reported about an error. -/
def ConfigurationError.message : ConfigurationError → String
  | .missing part => s!"Missing {part.text} identifier"
  | .empty part => s!"Empty {part.text} identifier"
  | .notBoolean value =>
    let text := Json.compact value.data
    s!"Invalid value for 'quote_columns': expected a boolean, got {text}"
  | .unknownPolicy name =>
    "Invalid value for 'on_schema_change': '" ++ name
      ++ "' is not one of ignore, append_new_columns, sync_all_columns, fail"
  | .emptyCatalogName => "Invalid value for 'name': catalog integration name must not be empty"
  | .unknownCatalogType name =>
    "Invalid value for 'catalog_type': unknown catalog type '" ++ name
      ++ "', expected INFO_SCHEMA or BUILT_IN"

/-! ### Quote policies -/

/-- Which parts of a relation's name are quoted. -/
structure QuotePolicy where
  database : Bool
  schema : Bool
  identifier : Bool
deriving DecidableEq, Repr

namespace QuotePolicy

/-- Every part is quoted. -/
def all : QuotePolicy := ⟨true, true, true⟩

/-- No part is quoted. -/
def none : QuotePolicy := ⟨false, false, false⟩

/-- Whether a part is quoted. -/
def forPart (p : QuotePolicy) : NamePart → Bool
  | .database => p.database
  | .schema => p.schema
  | .identifier => p.identifier

/-- A quote policy as data. -/
def toData (p : QuotePolicy) : Data :=
  .record [("database", .bool p.database), ("schema", .bool p.schema),
    ("identifier", .bool p.identifier)]

/-- Read a quote policy. -/
def ofData? (form : Form) (d : Data) : Option QuotePolicy := do
  let f ← d.fields? form ["database", "schema", "identifier"]
  let database ← f.required "database" Data.bool?
  let schema ← f.required "schema" Data.bool?
  let identifier ← f.required "identifier" Data.bool?
  return ⟨database, schema, identifier⟩

end QuotePolicy

/-- The quote policy of a dialect's projects, unless they set one: Snowflake projects leave
names bare. -/
def Dialect.defaultQuoting : Dialect → QuotePolicy
  | .snowflake => .none
  | .postgres | .bigQuery | .athena | .ansi => .all

/-! ### Normalization -/

/-- The stored spelling of a part, given whether the part is meant to be quoted. -/
def normalizePart (e : Engine) (quoted : Bool) (name : String) : String :=
  if e.isQuoted name then e.stripQuotes name
  else if quoted then name
  else e.casing.fold name

/-- The stored spelling of a part that has to be there. -/
def normalize (e : Engine) (policy : QuotePolicy) (part : NamePart) (name : Option String) :
    Except ConfigurationError String :=
  match name with
  | some name => .ok (normalizePart e (policy.forPart part) name)
  | none => .error (.missing part)

/-- The parts of a relation's name as they are stored; absent parts are left out. -/
structure RelationPath where
  database : Option String
  schema : Option String
  identifier : Option String
deriving DecidableEq, Repr

namespace RelationPath

/-- A path as data. -/
def toData (p : RelationPath) : Data :=
  .record (Data.optionalField "database" (p.database.map .text)
    ++ Data.optionalField "schema" (p.schema.map .text)
    ++ Data.optionalField "identifier" (p.identifier.map .text))

/-- Read a path. -/
def ofData? (form : Form) (d : Data) : Option RelationPath := do
  let f ← d.fields? form ["database", "schema", "identifier"]
  let database ← f.optional "database" Data.text?
  let schema ← f.optional "schema" Data.text?
  let identifier ← f.optional "identifier" Data.text?
  return ⟨database, schema, identifier⟩

end RelationPath

/-- Normalize the parts that are there. -/
def normalizePath (e : Engine) (policy : QuotePolicy)
    (database schema identifier : Option String) : RelationPath where
  database := database.map (normalizePart e policy.database)
  schema := schema.map (normalizePart e policy.schema)
  identifier := identifier.map (normalizePart e policy.identifier)

/-- The dotted name of an object, of the parts that are there. -/
def dottedName (database schema : Option String) (identifier : String) : String :=
  ".".intercalate (database.toList ++ schema.toList ++ [identifier])

/-! ### Seed columns -/

/-- A seed column as it is written, quoted when the setting says so. Null says no; what is
neither null nor a truth value is refused. -/
def seedColumn (e : Engine) (quoteColumns : Value) (column : String) :
    Except ConfigurationError String :=
  match quoteColumns.data with
  | .bool true => .ok (e.quote column)
  | .bool false | .null => .ok column
  | _ => .error (.notBoolean quoteColumns)

end SchemaDrift
