import SchemaDrift.Data.Decode
import SchemaDrift.Text.AsciiCase
import SchemaDrift.Text.Blank

/-!
# Kinds of relations

What sort of object a relation is, and how the data of a table is stored. Both have a name in
data, which is read exactly, and a looser reading for texts that people and warehouses write.
-/

namespace SchemaDrift

/-- The **kind** of a relation. -/
inductive RelationKind where
  | table
  | view
  /-- A table that the warehouse refreshes from a query. -/
  | dynamicTable
  /-- An object of which no more is known. -/
  | external
  /-- A table expression that exists within one query only. -/
  | cte
deriving DecidableEq, Repr

namespace RelationKind

/-- The name of a kind. -/
def text : RelationKind → String
  | .table => "table"
  | .view => "view"
  | .dynamicTable => "dynamic_table"
  | .external => "external"
  | .cte => "cte"

/-- All kinds. -/
def all : List RelationKind := [.table, .view, .dynamicTable, .external, .cte]

theorem mem_all (k : RelationKind) : k ∈ all := by cases k <;> decide

/-- Read the name of a kind, blanks around it and ASCII case aside. -/
def parse? (s : String) : Option RelationKind :=
  all.find? fun k => Text.eqIgnoringCase k.text (Text.trim s)

/-- Read a kind, exactly as it is written in data. -/
def ofData? (form : Form) (d : Data) : Option RelationKind :=
  d.choice? form (all.map fun k => (k.text, k))

end RelationKind

/-- How the data of a table is stored. -/
inductive StorageFormat where
  /-- In the format of the warehouse. -/
  | native
  /-- As an Iceberg table. -/
  | iceberg
deriving DecidableEq, Repr

namespace StorageFormat

/-- The format of a table of which nothing is said. -/
instance : Inhabited StorageFormat := ⟨.native⟩

/-- The name of a format among table formats. -/
def text : StorageFormat → String
  | .native => "DEFAULT"
  | .iceberg => "ICEBERG"

/-- The name of a format in data. -/
def dataText : StorageFormat → String
  | .native => "default"
  | .iceberg => "iceberg"

/-- The format that a setting names. Every table format but Iceberg is stored natively. -/
def ofTableFormat (s : String) : StorageFormat :=
  if Text.eqIgnoringCase (Text.trim s) "iceberg" then .iceberg else .native

/-- Read a format, exactly as it is written in data. -/
def ofData? (form : Form) (d : Data) : Option StorageFormat :=
  d.choice? form ([native, iceberg].map fun f => (f.dataText, f))

end StorageFormat

end SchemaDrift
