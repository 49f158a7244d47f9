import SchemaDrift.Data.Value
import SchemaDrift.Json.Printer
import SchemaDrift.Text.AsciiCase
import SchemaDrift.Text.Blank
import SchemaDrift.Text.CaseMap

/-!
# Result tables

A warehouse answers with tables of cells. Nothing is promised about a cell: it may be any
value, and a row may be shorter or longer than the list of columns. A cell that is not there is
null.
-/

namespace SchemaDrift

/-! ### Cells -/

namespace Value

/-- The text of a cell. Null and the empty text have none; what is not a text is written as
JSON. -/
def cellText? (v : Value) : Option String :=
  match v.data with
  | .null => none
  | .text s => if s.isEmpty then none else some s
  | d => some (Json.compact d)

/-- The text of a cell is never empty. -/
theorem cellText?_ne_empty (v : Value) : v.cellText? ≠ some "" := by
  intro h
  rw [cellText?] at h
  split at h
  · cases h
  · split at h
    · cases h
    · next hs => exact hs (by rw [Option.some.inj h]; rfl)
  · exact Json.compact_ne_empty _ (Option.some.inj h)

/-- Whether a cell says yes: true, or one of the words `Y`, `YES` and `TRUE`, blanks around it
and ASCII case aside. -/
def saysYes (v : Value) : Bool :=
  match v.data with
  | .bool b => b
  | .text s => ["Y", "YES", "TRUE"].any (Text.eqIgnoringCase (Text.trim s))
  | _ => false

/-- A cell that holds a natural number of 64 bits. -/
def count? (v : Value) : Option Nat :=
  match v.data with
  | .number (.integer (.ofNat n)) => if n < Nat.pow 2 64 then some n else none
  | _ => none

end Value

/-! ### Tables -/

/-- A **table** of cells under named columns. -/
structure Table where
  columns : List String
  rows : List (List Value)

namespace Table

/-- A table without rows. -/
def withColumns (columns : List String) : Table := ⟨columns, []⟩

/-- The table without columns and rows. -/
instance : Inhabited Table := ⟨withColumns []⟩

/-- Add a row at the end. -/
def push (t : Table) (row : List Value) : Table := { t with rows := t.rows ++ [row] }

/-- The table with the names of its columns in lower case. -/
def lowerNames (t : Table) : Table := { t with columns := t.columns.map Text.lower }

/-- The place of the first column with a name. -/
def columnIndex? (t : Table) (name : String) : Option Nat := t.columns.findIdx? (· = name)

/-- The cell of a row under a column. -/
def cell (t : Table) (row : List Value) (column : String) : Value :=
  ((t.columnIndex? column).bind (row[·]?)).getD .null

/-- The cell of the row with a number under a column. -/
def value (t : Table) (row : Nat) (column : String) : Value :=
  (t.rows[row]?.map (t.cell · column)).getD .null

/-- Whether a table has no rows. -/
def isEmpty (t : Table) : Bool := t.rows.isEmpty

@[simp] theorem rows_lowerNames (t : Table) : t.lowerNames.rows = t.rows := rfl

end Table

end SchemaDrift
