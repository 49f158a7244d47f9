import SchemaDrift.Column

/-!
# Structural operations

An operation adds a column to a relation or drops one. On a list of columns an addition takes
the place after the last column, unless the key is taken already; a drop removes every column
with the key and numbers what is left from one.
-/

namespace SchemaDrift

/-- A **structural operation** on a relation. -/
inductive Operation where
  | add (column : Column)
  | drop (column : Column)
deriving DecidableEq, Repr

namespace Operation

/-- The column that an operation is about. -/
def column : Operation → Column
  | .add c => c
  | .drop c => c

/-- An operation for a reader. -/
def display : Operation → String
  | .add c => s!"add column {c.name} {c.dataType}"
  | .drop c => s!"drop column {c.name}"

/-- The name of the column as it is written in a statement. -/
def quotedName (e : Engine) (op : Operation) : String := e.quoteIfNeeded op.column.name

/-- The columns after an operation. -/
def applyTo (e : Engine) (cs : List Column) : Operation → List Column
  | .add c =>
    if cs.any fun d => d.key e = c.key e then cs
    else cs ++ [{ c with ordinal := cs.length + 1 }]
  | .drop c => Column.number (cs.filter fun d => d.key e ≠ c.key e)

/-- The columns after several operations, one after another. -/
def applyAll (e : Engine) (cs : List Column) (ops : List Operation) : List Column :=
  ops.foldl (applyTo e) cs

@[simp] theorem applyAll_nil (e : Engine) (cs : List Column) : applyAll e cs [] = cs := rfl

@[simp] theorem applyAll_cons (e : Engine) (cs : List Column) (op : Operation)
    (ops : List Operation) : applyAll e cs (op :: ops) = applyAll e (op.applyTo e cs) ops := rfl

theorem applyAll_append (e : Engine) (cs : List Column) (ops ops' : List Operation) :
    applyAll e cs (ops ++ ops') = applyAll e (applyAll e cs ops) ops' := List.foldl_append

/-- The keys after an addition. -/
theorem map_key_applyTo_add (e : Engine) (cs : List Column) (c : Column) :
    ((Operation.add c).applyTo e cs).map (·.key e)
      = if c.key e ∈ cs.map (·.key e) then cs.map (·.key e)
        else cs.map (·.key e) ++ [c.key e] := by
  have h : (cs.any fun d => d.key e = c.key e) = true ↔ c.key e ∈ cs.map (·.key e) := by
    simp [List.any_eq_true]
  by_cases hc : c.key e ∈ cs.map (·.key e)
  · rw [applyTo, if_pos (h.mpr hc), if_pos hc]
  · rw [applyTo, if_neg (mt h.mp hc), if_neg hc, List.map_append]
    rfl

/-- The keys after a drop. -/
theorem map_key_applyTo_drop (e : Engine) (cs : List Column) (c : Column) :
    ((Operation.drop c).applyTo e cs).map (·.key e)
      = (cs.map (·.key e)).filter (· ≠ c.key e) := by
  rw [applyTo, Column.map_key_number, List.filter_map]
  rfl

/-- The name of what an operation does. -/
def intent : Operation → String
  | .add _ => "add"
  | .drop _ => "drop"

/-- An operation as data. -/
def toData (op : Operation) : Data :=
  .record [("intent", .text op.intent), ("column", op.column.toData)]

/-- Read an operation. -/
def ofData? (form : Form) (d : Data) : Option Operation := do
  let f ← d.fields? form ["intent", "column"]
  let make ← f.required "intent" (Data.choice? form [("add", Operation.add), ("drop", .drop)])
  let column ← f.required "column" (Column.ofData? form)
  return make column

end Operation

end SchemaDrift
