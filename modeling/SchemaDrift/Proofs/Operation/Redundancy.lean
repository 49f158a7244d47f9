import SchemaDrift.Proofs.Operation.Runs

/-!
# Operations that find nothing to do

An operation is **redundant** on a list of columns when it adds a key that is there, or drops one
that is not. It then has nothing to do, but it does not always leave the list alone:

* `applyTo_eq_of_isRedundant`: a redundant addition returns the list itself, a redundant drop the
  list numbered from one.
* `length_applyTo_eq_iff`: every other operation makes the list longer or shorter.
* `applyTo_eq_self_iff`: so the names and types of the columns stay exactly when the operation is
  redundant. The positions stay as well, unless it is a drop and the list is not **numbered**: it
  has an unknown position, or a gap.
-/

namespace SchemaDrift

namespace Column

variable {cs : List Column}

/-- A list of columns is **numbered** when its positions count from one. -/
def IsNumbered (cs : List Column) : Prop := cs.map (·.ordinal) = List.range' 1 cs.length

instance (cs : List Column) : Decidable (IsNumbered cs) := inferInstanceAs (Decidable (_ = _))

/-- Numbering leaves exactly the numbered lists as they are. -/
theorem number_eq_self_iff : number cs = cs ↔ IsNumbered cs := by
  refine ⟨map_ordinal_of_number_eq, fun h => List.ext_getElem (length_number cs) fun i _ hi => ?_⟩
  have hposition : cs[i].ordinal = i + 1 := by
    have hpositions := List.getElem_of_eq h (by simpa using hi)
    simpa [Nat.add_comm] using hpositions
  simp [number, ← hposition]

end Column

namespace Operation

variable {e : Engine} {cs : List Column} {op : Operation}

/-- An operation is **redundant** when it adds a key that is there, or drops one that is not. -/
def IsRedundant (e : Engine) (cs : List Column) : Operation → Prop
  | .add c => c.key e ∈ cs.map (·.key e)
  | .drop c => c.key e ∉ cs.map (·.key e)

instance (e : Engine) (cs : List Column) : DecidablePred (IsRedundant e cs)
  | .add c => inferInstanceAs (Decidable (c.key e ∈ _))
  | .drop c => inferInstanceAs (Decidable (c.key e ∉ _))

theorem applyTo_drop_of_not_mem {c : Column} (h : c.key e ∉ cs.map (·.key e)) :
    (Operation.drop c).applyTo e cs = Column.number cs := by
  have hkeeps : ∀ d ∈ cs, decide (d.key e ≠ c.key e) = true := fun d hd =>
    decide_eq_true fun hkey => h (List.mem_map.mpr ⟨d, hd, hkey⟩)
  rw [applyTo, List.filter_eq_self.mpr hkeeps]

/-- What a redundant operation returns: a drop has numbered the columns. -/
theorem applyTo_eq_of_isRedundant (h : op.IsRedundant e cs) :
    op.applyTo e cs = match op with
      | .add _ => cs
      | .drop _ => Column.number cs := by
  cases op with
  | add c => exact applyTo_add_of_mem h
  | drop c => exact applyTo_drop_of_not_mem h

/-- Only a redundant operation returns as many columns as there were. -/
theorem length_applyTo_eq_iff : (op.applyTo e cs).length = cs.length ↔ op.IsRedundant e cs := by
  cases op with
  | add c =>
    by_cases hc : c.key e ∈ cs.map (·.key e)
    · rw [applyTo_add_of_mem hc]
      exact iff_of_true rfl hc
    · rw [applyTo_add_of_not_mem hc, List.length_append, Column.length_numberFrom]
      exact iff_of_false (Nat.succ_ne_self _) hc
  | drop c =>
    rw [applyTo, Column.length_number, List.length_filter_eq_length_iff, IsRedundant, List.mem_map]
    simp

/-- The names and types of the columns stay exactly when an operation is redundant. -/
theorem map_declaration_applyTo_eq_iff :
    (op.applyTo e cs).map Column.declaration = cs.map Column.declaration
      ↔ op.IsRedundant e cs := by
  constructor
  · intro h
    have hlength := congrArg List.length h
    rw [List.length_map, List.length_map] at hlength
    exact length_applyTo_eq_iff.mp hlength
  · intro h
    rw [applyTo_eq_of_isRedundant h]
    cases op with
    | add c => rfl
    | drop c => exact Column.map_declaration_number cs

/-- **What a redundant operation changes.** The names and types of the columns stay exactly when
an operation is redundant. The list stays as it was, positions included, exactly when the
operation is redundant and moreover, if it is a drop, the positions count from one. -/
theorem applyTo_eq_self_iff (e : Engine) (cs : List Column) (op : Operation) :
    ((op.applyTo e cs).map Column.declaration = cs.map Column.declaration
      ↔ op.IsRedundant e cs)
    ∧ (op.applyTo e cs = cs
      ↔ op.IsRedundant e cs ∧ ∀ c, op = .drop c → Column.IsNumbered cs) := by
  refine ⟨map_declaration_applyTo_eq_iff, ?_⟩
  have hredundant : op.applyTo e cs = cs → op.IsRedundant e cs := fun h =>
    length_applyTo_eq_iff.mp (congrArg List.length h)
  cases op with
  | add c => exact ⟨fun h => ⟨hredundant h, nofun⟩, fun h => applyTo_add_of_mem h.1⟩
  | drop c =>
    constructor
    · intro h
      have hc := hredundant h
      rw [applyTo_drop_of_not_mem hc, Column.number_eq_self_iff] at h
      exact ⟨hc, fun _ _ => h⟩
    · rintro ⟨hc, hnumbered⟩
      rw [applyTo_drop_of_not_mem hc, Column.number_eq_self_iff]
      exact hnumbered c rfl

/-- A drop of a column that is not there gives a position to one whose position is unknown. -/
theorem applyTo_numbers_unknown_position :
    let cs : List Column := [⟨"id", "int", 0⟩]
    let op : Operation := .drop ⟨"note", "text", 0⟩
    op.IsRedundant Dialect.ansi.engine cs
      ∧ op.applyTo Dialect.ansi.engine cs = [⟨"id", "int", 1⟩]
      ∧ op.applyTo Dialect.ansi.engine cs ≠ cs := by
  decide +kernel

end Operation

end SchemaDrift
