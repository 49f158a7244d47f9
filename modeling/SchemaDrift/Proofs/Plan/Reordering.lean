import SchemaDrift.Proofs.Plan.Coverage

/-!
# The order of a plan's operations

An addition takes the position after the last column and a drop numbers the whole list, so the
order of operations could well show in the positions. It does not, as long as additions stay in
order among themselves. Two operations **commute** when their order makes no difference to any
list of columns, positions included:

* `commutes_drop_drop`: two drops commute, also when they are about one key and the second finds
  nothing left to drop.
* `commutes_drop_add`: a drop and an addition of different keys commute. Positions agree since
  either way the drop leaves the list numbered, and the new column comes last.

Two additions do not commute, nor do an addition and a drop of one key. The latter do not occur
among operations that suit one load. So every addition may be moved ahead of every drop
(`applyAll_eq_additions_drops`), and the drops may then be permuted (`applyAll_eq_of_perm`). The
operations of a plan suit its load, so its target does not depend on the places of the drops
(`target_of_reordered`).
-/

namespace SchemaDrift

namespace Operation

variable {e : Engine} {incoming cs : List Column} {op op' : Operation} {ops ops' : List Operation}

/-! ### Operations that commute -/

/-- Two operations **commute** if their order makes no difference to any list of columns. -/
def Commutes (e : Engine) (op op' : Operation) : Prop :=
  ∀ cs, op'.applyTo e (op.applyTo e cs) = op.applyTo e (op'.applyTo e cs)

theorem commutes_drop_drop (c d : Column) : Commutes e (.drop c) (.drop d) := by
  intro cs
  -- each order numbers the columns with neither key
  have hboth : ∀ c d : Column, (Operation.drop d).applyTo e ((Operation.drop c).applyTo e cs)
      = Column.number (cs.filter fun x => x.key e ≠ d.key e ∧ x.key e ≠ c.key e) := by
    intro c d
    rw [applyTo, applyTo, Column.number_filter_number e (fun k => k ≠ d.key e), List.filter_filter]
    simp only [Bool.decide_and]
  rw [hboth c d, hboth d c]
  simp only [and_comm]

theorem commutes_drop_add {c d : Column} (h : d.key e ≠ c.key e) :
    Commutes e (.drop c) (.add d) := by
  intro cs
  by_cases hd : d.key e ∈ cs.map (·.key e)
  · have hkept : d.key e ∈ ((Operation.drop c).applyTo e cs).map (·.key e) :=
      mem_map_key_applyTo_drop.mpr ⟨hd, h⟩
    rw [applyTo_add_of_mem hkept, applyTo_add_of_mem hd]
  · have hnew : d.key e ∉ ((Operation.drop c).applyTo e cs).map (·.key e) :=
      fun hmem => hd (mem_map_key_applyTo_drop.mp hmem).1
    -- the new column is not the one that is dropped
    have hself : (Column.numberFrom cs.length [d]).filter (fun x => x.key e ≠ c.key e)
        = Column.numberFrom cs.length [d] := by
      rw [Column.numberFrom_cons, Column.numberFrom_nil]
      exact List.filter_cons_of_pos (decide_eq_true h)
    have hfilter : (cs ++ Column.numberFrom cs.length [d]).filter (fun x => x.key e ≠ c.key e)
        = cs.filter (fun x => x.key e ≠ c.key e) ++ Column.numberFrom cs.length [d] := by
      rw [List.filter_append, hself]
    rw [applyTo_add_of_not_mem hnew, applyTo_add_of_not_mem hd, applyTo, applyTo, hfilter,
      Column.number_eq_numberFrom, Column.number_eq_numberFrom, Column.numberFrom_append,
      Nat.zero_add, Column.length_numberFrom]
    rfl

/-- An operation may be put off until after others that it commutes with. -/
theorem applyAll_applyTo (h : ∀ op' ∈ ops, Commutes e op op') (cs : List Column) :
    applyAll e (op.applyTo e cs) ops = op.applyTo e (applyAll e cs ops) := by
  induction ops generalizing cs with
  | nil => rfl
  | cons op' ops ih =>
    rw [applyAll_cons, h op' List.mem_cons_self cs,
      ih (fun op'' hop'' => h op'' (List.mem_cons_of_mem _ hop'')), applyAll_cons]

/-! ### Additions first -/

/-- Whether an operation adds a column. -/
def isAddition : Operation → Bool
  | .add _ => true
  | .drop _ => false

/-- The additions among operations, in their order. -/
def additions (ops : List Operation) : List Operation := ops.filter isAddition

/-- The drops among operations, in their order. -/
def drops (ops : List Operation) : List Operation := ops.filter fun op => !op.isAddition

@[simp]
theorem additions_add (c : Column) (ops : List Operation) :
    additions (.add c :: ops) = .add c :: additions ops := rfl

@[simp]
theorem additions_drop (c : Column) (ops : List Operation) :
    additions (.drop c :: ops) = additions ops := rfl

@[simp]
theorem drops_add (c : Column) (ops : List Operation) : drops (.add c :: ops) = drops ops := rfl

@[simp]
theorem drops_drop (c : Column) (ops : List Operation) :
    drops (.drop c :: ops) = .drop c :: drops ops := rfl

/-- A drop commutes with every operation that suits the same load. -/
theorem Suits.commutes_drop {c : Column} (h : (Operation.drop c).Suits e incoming)
    (hop : op.Suits e incoming) : Commutes e (.drop c) op := by
  cases op with
  | add d => exact commutes_drop_add fun heq => h (heq ▸ hop)
  | drop d => exact commutes_drop_drop c d

/-- Operations that suit one load may be run with the additions first. -/
theorem applyAll_eq_additions_drops (hsuits : ∀ op ∈ ops, op.Suits e incoming)
    (cs : List Column) :
    applyAll e cs ops = applyAll e (applyAll e cs (additions ops)) (drops ops) := by
  induction ops generalizing cs with
  | nil => rfl
  | cons op ops ih =>
    have hrest : ∀ op' ∈ ops, op'.Suits e incoming :=
      fun op' hop' => hsuits op' (List.mem_cons_of_mem _ hop')
    rw [applyAll_cons, ih hrest]
    cases op with
    | add c => rw [additions_add, drops_add, applyAll_cons]
    | drop c =>
      -- the drop is put off until after the additions among the other operations
      have hcommutes : ∀ op' ∈ additions ops, Commutes e (.drop c) op' := fun op' hop' =>
        (hsuits _ List.mem_cons_self).commutes_drop (hrest op' (List.mem_filter.mp hop').1)
      rw [additions_drop, drops_drop, applyAll_cons, applyAll_applyTo hcommutes]

/-- Operations that suit one load may be permuted if the additions stay in order. -/
theorem applyAll_eq_of_perm (hsuits : ∀ op ∈ ops', op.Suits e incoming) (hperm : ops.Perm ops')
    (hadds : additions ops = additions ops') (cs : List Column) :
    applyAll e cs ops = applyAll e cs ops' := by
  have hsuits' : ∀ op ∈ ops, op.Suits e incoming := fun op hop => hsuits op (hperm.subset hop)
  have hdrops : (drops ops).Perm (drops ops') := hperm.filter _
  have hcommutes : ∀ op ∈ drops ops, ∀ op' ∈ drops ops, Commutes e op op' := by
    intro op hop op' hop'
    obtain ⟨hmem, hdrop⟩ := List.mem_filter.mp hop
    cases op with
    | add c => cases hdrop
    | drop c => exact (hsuits' _ hmem).commutes_drop (hsuits' op' (List.mem_filter.mp hop').1)
  rw [applyAll_eq_additions_drops hsuits', applyAll_eq_additions_drops hsuits, hadds]
  exact hdrops.foldl_eq' (fun op hop op' hop' => hcommutes op hop op' hop') _

end Operation

namespace Plan

variable {e : Engine} {relation : String} {existing incoming : List Column} {policy : Policy}
  {p : Plan}

/-- The operations of a plan suit the load that it is made for. -/
theorem suits_of_mem_operations (h : reconcile e relation existing incoming policy = .ok p)
    {op : Operation} (hop : op ∈ p.operations) : op.Suits e incoming := by
  rw [operations_of_reconcile h, List.mem_append] at hop
  rcases hop with hadd | hdrop
  · split at hadd
    · obtain ⟨c, hc, rfl⟩ := List.mem_map.mp hadd
      exact (Column.mem_map_key_newTo.mp (List.mem_map_of_mem hc)).1
    · cases hadd
  · split at hdrop
    · exact suits_of_mem_drops (List.Subset.refl _) hdrop
    · cases hdrop

/-- **Independent operations commute.** Run in any order that keeps the additions in order among
themselves, the operations of a plan lead to the target of the plan, positions included. -/
theorem target_of_reordered (h : reconcile e relation existing incoming policy = .ok p)
    {ops : List Operation} (hperm : ops.Perm p.operations)
    (hadds : Operation.additions ops = Operation.additions p.operations) :
    Operation.applyAll e existing ops = p.target := by
  rw [target_of_reconcile h]
  exact Operation.applyAll_eq_of_perm (fun _ => suits_of_mem_operations h) hperm hadds existing

/-- The order of additions shows. -/
example : Operation.applyAll Dialect.ansi.engine [] [.add ⟨"a", "INT", 0⟩, .add ⟨"b", "INT", 0⟩]
    ≠ Operation.applyAll Dialect.ansi.engine [] [.add ⟨"b", "INT", 0⟩, .add ⟨"a", "INT", 0⟩] := by
  decide +kernel

/-- A table that has one column twice, under two spellings, and does not know its positions. -/
def shipments : List Column := [⟨"Note", "TEXT", 0⟩, ⟨"ID", "NUMBER", 0⟩, ⟨"NOTE", "TEXT", 0⟩]

/-- A load that brings two new columns and lacks the one that the table has twice. -/
def shipmentLoad : List Column := [⟨"SENT", "DATE", 1⟩, ⟨"id", "NUMBER", 2⟩, ⟨"PAID", "DATE", 3⟩]

/-- The plan runs both additions before both drops, of which the second is redundant. Run in
another order it drops the other spelling first, and the positions come out the same. -/
theorem target_of_reordered_shipments :
    ∃ p, reconcile Dialect.snowflake.engine "shipments" shipments shipmentLoad .syncAllColumns
          = .ok p
      ∧ p.operations = [.add ⟨"SENT", "DATE", 1⟩, .add ⟨"PAID", "DATE", 3⟩,
          .drop ⟨"Note", "TEXT", 0⟩, .drop ⟨"NOTE", "TEXT", 0⟩]
      ∧ p.target = [⟨"ID", "NUMBER", 1⟩, ⟨"SENT", "DATE", 2⟩, ⟨"PAID", "DATE", 3⟩]
      ∧ Operation.applyAll Dialect.snowflake.engine shipments [.drop ⟨"NOTE", "TEXT", 0⟩,
          .add ⟨"SENT", "DATE", 1⟩, .drop ⟨"Note", "TEXT", 0⟩, .add ⟨"PAID", "DATE", 3⟩]
        = p.target := by
  obtain ⟨p, hp⟩ : ∃ p, reconcile Dialect.snowflake.engine "shipments" shipments shipmentLoad
      .syncAllColumns = .ok p := ⟨_, rfl⟩
  have hops : p.operations = [.add ⟨"SENT", "DATE", 1⟩, .add ⟨"PAID", "DATE", 3⟩,
      .drop ⟨"Note", "TEXT", 0⟩, .drop ⟨"NOTE", "TEXT", 0⟩] := by
    rw [operations_sync hp]
    decide +kernel
  have htarget : p.target = [⟨"ID", "NUMBER", 1⟩, ⟨"SENT", "DATE", 2⟩, ⟨"PAID", "DATE", 3⟩] := by
    rw [target_of_reconcile hp, hops]
    decide +kernel
  refine ⟨p, hp, hops, htarget, target_of_reordered hp ?_ ?_⟩ <;> rw [hops]
  · decide
  · rfl

end Plan

end SchemaDrift
