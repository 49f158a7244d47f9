import SchemaDrift.Listing.Contents

/-!
# Catalog entries

A catalog entry describes one relation: what the warehouse says about the object, its columns,
and statistics. Views have no statistics to speak of.
-/

namespace SchemaDrift.Listing

/-- What the warehouse says about an object. -/
structure ObjectMetadata where
  /-- The kind of object, in upper case. -/
  objectType : String
  database : Option String
  schema : Option String
  name : String
  comment : Option String
  owner : Option String
deriving DecidableEq, Repr

/-- A column of a catalog entry; its number counts from one. -/
structure CatalogColumn where
  name : String
  dataType : String
  index : Nat
deriving DecidableEq, Repr

/-- A statistic. -/
structure Statistic where
  id : String
  label : String
  value : Value
  isIncluded : Bool
  description : String

/-- A **catalog entry**. -/
structure CatalogEntry where
  metadata : ObjectMetadata
  columns : List CatalogColumn
  statistics : List Statistic

namespace ObjectMetadata

/-- The kind of object that a row describes. -/
def typeOf (kind isDynamic : Value) : String :=
  let kind := Text.upper (kind.cellText?.getD "")
  if kind = "TABLE" && isDynamic.saysYes then "DYNAMIC_TABLE" else kind

/-- What the first row of a table says about an object that was asked for under a name. -/
def ofTable (t : Table) (asked : String) : ObjectMetadata where
  objectType := typeOf (t.value 0 "kind") (t.value 0 "is_dynamic")
  database := (t.value 0 "database_name").cellText?
  schema := (t.value 0 "schema_name").cellText?
  name := (t.value 0 "name").cellText?.getD asked
  comment := (t.value 0 "comment").cellText?
  owner := (t.value 0 "owner").cellText?

/-- Whether an object is a view. -/
def isView (m : ObjectMetadata) : Bool := m.objectType = "VIEW"

end ObjectMetadata

/-- The statistics of an object that has these numbers of rows and bytes. -/
def statisticsOf (isView : Bool) (rows bytes : Value) : List Statistic :=
  [{ id := "has_stats", label := "Has Stats?", value := .bool (!isView), isIncluded := false
     description := "Indicates whether there are statistics for this table" },
   { id := "row_count", label := "Row Count", value := rows, isIncluded := !isView
     description := "Number of rows in the table as reported by the warehouse" },
   { id := "bytes", label := "Approximate Size", value := bytes, isIncluded := !isView
     description := "Size of the table as reported by the warehouse" }]

namespace CatalogEntry

/-- The statistic with an id. -/
def statistic? (c : CatalogEntry) (id : String) : Option Statistic :=
  c.statistics.find? fun s => s.id = id

/-- The entry of an object that was asked for under a name, from the answers about the object
and about its columns. There is none when nothing is said about the object; then the columns do
not matter. -/
def ofAnswers (asked : String) (metadata : Except FetchError Table)
    (columns : Except FetchError (List Column)) : Except FetchError (Option CatalogEntry) :=
  match metadata with
  | .error _ => .ok none
  | .ok t =>
    let t := t.lowerNames
    if t.isEmpty then .ok none else
    let metadata := ObjectMetadata.ofTable t asked
    (Listing.columns columns).map fun cs => some
      { metadata
        columns := cs.mapIdx fun i c => ⟨c.name, c.dataType, i + 1⟩
        statistics := statisticsOf metadata.isView (t.value 0 "rows") (t.value 0 "bytes") }

/-! ### As data -/

/-- A catalog entry as data. -/
def toData (c : CatalogEntry) : Data :=
  .record
    [("metadata", .record
      [("type", .text c.metadata.objectType), ("database", .ofOptionText c.metadata.database),
       ("schema", .ofOptionText c.metadata.schema), ("name", .text c.metadata.name),
       ("comment", .ofOptionText c.metadata.comment), ("owner", .ofOptionText c.metadata.owner)]),
     ("columns", .list (c.columns.map fun x => .record
      [("name", .text x.name), ("data_type", .text x.dataType), ("index", .ofNat x.index)])),
     ("stats", .list (c.statistics.map fun s => .record
      [("id", .text s.id), ("label", .text s.label), ("value", s.value.data),
       ("include", .bool s.isIncluded), ("description", .text s.description)]))]

end CatalogEntry

end SchemaDrift.Listing
