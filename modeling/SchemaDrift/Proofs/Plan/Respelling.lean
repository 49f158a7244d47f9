import Mathlib.Data.List.Forall2
import SchemaDrift.Proofs.Plan.State

/-!
# What planning looks at

The columns that planning is given come with names in some spelling, with types and with
positions, and all of these go into the plan that it makes. None of them decides what the plan
is: planning looks at keys alone, and two callers who spell the same keys differently get plans
that differ in spelling only.

Two lists of columns are `Column.Alike` if they have the same keys place by place, two operations
are `Operation.Alike` if they do the same to one key. The law is proved along the passes of
planning: alike relations and loads have alike drifts (`Alike.newTo`, `Alike.missingFrom`), alike
operations lead alike columns to alike columns (`Alike.applyTo` for one operation,
`applyAll_alike` for a run), and whether a plan converges is a matter of the keys of its target.

* `reconcile_respelled`: planning for alike lists makes plans on both sides or refuses on both,
  and what it makes or refuses is alike.
-/

namespace SchemaDrift

/-- Two lists of columns are **alike** if they have the same keys, place by place. Names may be
spelled differently, types and positions may be any. -/
def Column.Alike (e : Engine) (cs ds : List Column) : Prop :=
  cs.map (·.key e) = ds.map (·.key e)

/-- Two operations are **alike** if both add a column or both drop one, and the key is the same. -/
inductive Operation.Alike (e : Engine) : Operation → Operation → Prop
  | add {c d : Column} (key : c.key e = d.key e) : Alike e (.add c) (.add d)
  | drop {c d : Column} (key : c.key e = d.key e) : Alike e (.drop c) (.drop d)

/-- Two answers of planning **agree** if both are plans with alike operations, alike targets and
the same state, or both are refusals that name alike columns. -/
inductive Plan.Agree (e : Engine) : Except OutOfSync Plan → Except OutOfSync Plan → Prop
  | plans {p p' : Plan} (operations : List.Forall₂ (Operation.Alike e) p.operations p'.operations)
      (target : Column.Alike e p.target p'.target) (state : p.state = p'.state) :
      Agree e (.ok p) (.ok p')
  | refusals {o o' : OutOfSync} (added : o.added.map e.columnKey = o'.added.map e.columnKey)
      (removed : o.removed.map e.columnKey = o'.removed.map e.columnKey) :
      Agree e (.error o) (.error o')

variable {e : Engine}

/-! ### Drifts of lists that are alike -/

namespace Column.Alike

variable {cs ds existing existing' incoming incoming' : List Column}

theorem mem_iff (h : Column.Alike e cs ds) {k : String} :
    k ∈ cs.map (·.key e) ↔ k ∈ ds.map (·.key e) := by
  rw [h]

theorem sameKeys_iff (hexisting : Column.Alike e existing existing')
    (hincoming : Column.Alike e incoming incoming') :
    SameKeys e existing incoming ↔ SameKeys e existing' incoming' :=
  forall_congr' fun _ => iff_congr hexisting.mem_iff hincoming.mem_iff

/-- Selecting columns by their keys selects alike columns. -/
theorem filter (h : Column.Alike e cs ds) (p : String → Bool) :
    Column.Alike e (cs.filter fun c => p (c.key e)) (ds.filter fun d => p (d.key e)) := by
  have hfilter : ∀ l : List Column, (l.filter fun c => p (c.key e)).map (·.key e)
      = (l.map (·.key e)).filter p := fun l => by
    rw [List.filter_map]
    rfl
  rw [Column.Alike, hfilter, hfilter, h]

theorem missingFrom (hexisting : Column.Alike e existing existing')
    (hincoming : Column.Alike e incoming incoming') :
    Column.Alike e (missingFrom e incoming existing) (missingFrom e incoming' existing') := by
  rw [Column.missingFrom, Column.missingFrom, hincoming]
  exact hexisting.filter fun k => k ∉ incoming'.map (·.key e)

theorem firstOfEachKey (h : Column.Alike e cs ds) (known : List String) :
    Column.Alike e (Drift.firstOfEachKey e known cs) (Drift.firstOfEachKey e known ds) := by
  induction cs generalizing known ds with
  | nil =>
    have hds : ds = [] := List.map_eq_nil_iff.mp h.symm
    rw [hds]
    rfl
  | cons c cs ih =>
    obtain ⟨d, ds, rfl, hkey, hrest⟩ := List.map_eq_cons_iff.mp h.symm
    -- both searches pass over the first column, or both find it and remember one key
    rw [Drift.firstOfEachKey, Drift.firstOfEachKey, hkey]
    split
    · exact ih hrest.symm known
    · rw [Column.Alike, List.map_cons, List.map_cons, hkey, ih hrest.symm (c.key e :: known)]

theorem newTo (hexisting : Column.Alike e existing existing')
    (hincoming : Column.Alike e incoming incoming') :
    Column.Alike e (newTo e existing incoming) (newTo e existing' incoming') := by
  rw [← Drift.firstOfEachKey_eq_newTo, ← Drift.firstOfEachKey_eq_newTo, hexisting]
  exact hincoming.firstOfEachKey _

/-- The same operation on each of several columns, and on columns that are alike. -/
theorem forall₂_map {f : Column → Operation} (h : Column.Alike e cs ds)
    (hf : ∀ {c d : Column}, c.key e = d.key e → Operation.Alike e (f c) (f d)) :
    List.Forall₂ (Operation.Alike e) (cs.map f) (ds.map f) := by
  have hkeys : List.Forall₂ (· = ·) (cs.map (·.key e)) (ds.map (·.key e)) := by
    rw [h]
    exact List.forall₂_refl _
  rw [List.forall₂_map_left_iff, List.forall₂_map_right_iff] at hkeys ⊢
  exact hkeys.imp fun _ _ => hf

/-- The keys of names. -/
theorem map_columnKey_name (h : Column.Alike e cs ds) :
    (cs.map (·.name)).map e.columnKey = (ds.map (·.name)).map e.columnKey := by
  rw [List.map_map, List.map_map]
  exact h

end Column.Alike

/-! ### Runs of operations that are alike -/

namespace Operation

variable {op op' : Operation} {ops ops' : List Operation} {cs ds : List Column}

/-- Operations that are alike leave columns alike. -/
theorem Alike.applyTo (hop : Alike e op op') (h : Column.Alike e cs ds) :
    Column.Alike e (op.applyTo e cs) (op'.applyTo e ds) := by
  cases hop with
  | add hkey => rw [Column.Alike, map_key_applyTo_add, map_key_applyTo_add, h, hkey]
  | drop hkey => rw [Column.Alike, map_key_applyTo_drop, map_key_applyTo_drop, h, hkey]

/-- Runs of operations that are alike leave columns alike. -/
theorem applyAll_alike (hops : List.Forall₂ (Alike e) ops ops') (h : Column.Alike e cs ds) :
    Column.Alike e (applyAll e cs ops) (applyAll e ds ops') := by
  induction hops generalizing cs ds with
  | nil => exact h
  | cons hop _ ih => exact ih (hop.applyTo h)

end Operation

/-! ### Plans for lists that are alike -/

namespace Plan

variable {relation : String} {existing existing' incoming incoming' : List Column}
  {policy : Policy} {p p' : Plan}

theorem operations_alike (hexisting : Column.Alike e existing existing')
    (hincoming : Column.Alike e incoming incoming')
    (h : reconcile e relation existing incoming policy = .ok p)
    (h' : reconcile e relation existing' incoming' policy = .ok p') :
    List.Forall₂ (Operation.Alike e) p.operations p'.operations := by
  rw [operations_of_reconcile h, operations_of_reconcile h']
  refine List.rel_append ?_ ?_
  · split
    · exact (hexisting.newTo hincoming).forall₂_map .add
    · exact .nil
  · split
    · exact (hexisting.missingFrom hincoming).forall₂_map .drop
    · exact .nil

/-- **Planning looks at keys alone.** For relations and loads that are alike, however their names
are spelled and whatever their types and positions, planning under a policy makes a plan on both
sides or refuses on both. The plans have alike operations, alike targets and the same state; the
refusals name alike columns. -/
theorem reconcile_respelled (relation : String) (policy : Policy)
    (hexisting : Column.Alike e existing existing')
    (hincoming : Column.Alike e incoming incoming') :
    Agree e (reconcile e relation existing incoming policy)
      (reconcile e relation existing' incoming' policy) := by
  have hsame := hexisting.sameKeys_iff hincoming
  cases h : reconcile e relation existing incoming policy with
  | ok p =>
    obtain ⟨p', h'⟩ : ∃ p', reconcile e relation existing' incoming' policy = .ok p' :=
      exists_reconcile_iff.mpr fun hfail => hsame.mp (exists_reconcile_iff.mp ⟨p, h⟩ hfail)
    rw [h']
    have hoperations := operations_alike hexisting hincoming h h'
    have htarget : Column.Alike e p.target p'.target := by
      rw [target_of_reconcile h, target_of_reconcile h']
      exact Operation.applyAll_alike hoperations hexisting
    have hstate := state_eq_of_sameKeys_iff h' h (htarget.sameKeys_iff hincoming)
    exact .plans hoperations htarget hstate
  | error o =>
    -- the policy refuses drift, and there is some on the other side too
    obtain rfl := policy_of_reconcile_error h
    have hdrift := not_sameKeys_of_reconcile_error h
    rw [reconcile_fail_of_not_sameKeys e relation existing incoming hdrift] at h
    obtain rfl := Except.error.inj h
    rw [reconcile_fail_of_not_sameKeys e relation existing' incoming' (mt hsame.mpr hdrift)]
    exact .refusals (hexisting.newTo hincoming).map_columnKey_name
      (hexisting.missingFrom hincoming).map_columnKey_name

/-- A table in which one column is there under two spellings. -/
def parcels : List Column := [⟨"ID", "NUMBER", 1⟩, ⟨"note", "TEXT", 2⟩, ⟨"\"NOTE\"", "TEXT", 3⟩]

/-- The same table with other spellings, other types and without positions. -/
def respelledParcels : List Column :=
  [⟨"\"id\"", "FLOAT", 0⟩, ⟨"Note", "DATE", 0⟩, ⟨"NOTE", "INT", 0⟩]

/-- A load that brings a new column under two spellings. -/
def parcelLoad : List Column :=
  [⟨"Weight", "FLOAT", 1⟩, ⟨"id", "NUMBER", 2⟩, ⟨"WEIGHT", "NUMBER", 3⟩]

/-- The same load with other spellings and other types. -/
def respelledParcelLoad : List Column :=
  [⟨"\"weight\"", "TEXT", 0⟩, ⟨"Id", "TEXT", 0⟩, ⟨"weight", "TEXT", 0⟩]

/-- Two tables are synchronized in the same steps, and two refusals name the same columns. -/
theorem reconcile_respelled_parcels :
    Column.Alike Dialect.snowflake.engine parcels respelledParcels
      ∧ Column.Alike Dialect.snowflake.engine parcelLoad respelledParcelLoad
      ∧ Agree Dialect.snowflake.engine
          (reconcile Dialect.snowflake.engine "parcels" parcels parcelLoad .syncAllColumns)
          (reconcile Dialect.snowflake.engine "parcels" respelledParcels respelledParcelLoad
            .syncAllColumns)
      ∧ Agree Dialect.snowflake.engine
          (reconcile Dialect.snowflake.engine "parcels" parcels parcelLoad .fail)
          (reconcile Dialect.snowflake.engine "parcels" respelledParcels respelledParcelLoad
            .fail) := by
  have hexisting : Column.Alike Dialect.snowflake.engine parcels respelledParcels := by
    rw [Column.Alike]
    decide +kernel
  have hincoming : Column.Alike Dialect.snowflake.engine parcelLoad respelledParcelLoad := by
    rw [Column.Alike]
    decide +kernel
  exact ⟨hexisting, hincoming, reconcile_respelled "parcels" .syncAllColumns hexisting hincoming,
    reconcile_respelled "parcels" .fail hexisting hincoming⟩

end Plan

end SchemaDrift
