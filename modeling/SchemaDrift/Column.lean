import SchemaDrift.Data.Decode
import SchemaDrift.Identifier.Engine

/-!
# Columns

A column has a name, the type text of the warehouse, which is never interpreted, and a position
that counts from one, zero standing for an unknown position.
-/

namespace SchemaDrift

/-- A **column** of a relation. -/
structure Column where
  name : String
  dataType : String
  ordinal : Nat := 0
deriving DecidableEq, Repr

namespace Column

/-- The key under which a column is compared. -/
def key (e : Engine) (c : Column) : String := e.columnKey c.name

/-- A column for a reader. -/
def display (c : Column) : String := s!"{c.name} {c.dataType}"

/-- Number columns from one in their order. -/
def number (cs : List Column) : List Column :=
  cs.mapIdx fun i c => { c with ordinal := i + 1 }

@[simp] theorem key_with_ordinal (e : Engine) (c : Column) (n : Nat) :
    key e { c with ordinal := n } = c.key e := rfl

@[simp] theorem length_number (cs : List Column) : (number cs).length = cs.length := by
  simp [number]

/-- Numbering changes no key. -/
@[simp] theorem map_key_number (e : Engine) (cs : List Column) :
    (number cs).map (key e) = cs.map (key e) :=
  List.ext_getElem (by simp) fun _ _ _ => by simp [number]

/-- A column as data. -/
def toData (c : Column) : Data :=
  .record [("name", .text c.name), ("data_type", .text c.dataType),
    ("ordinal_position", .ofNat c.ordinal)]

/-- Read a column. -/
def ofData? (form : Form) (d : Data) : Option Column := do
  let f ← d.fields? form ["name", "data_type", "ordinal_position"]
  let name ← f.required "name" Data.text?
  let dataType ← f.required "data_type" Data.text?
  let ordinal ← f.defaulted "ordinal_position" 0 Data.count?
  return ⟨name, dataType, ordinal⟩

/-- Columns as data. -/
def listToData (cs : List Column) : Data := .list (cs.map toData)

/-- Read columns. -/
def listOfData? (form : Form) (d : Data) : Option (List Column) := d.list? (ofData? form)

end Column

end SchemaDrift
