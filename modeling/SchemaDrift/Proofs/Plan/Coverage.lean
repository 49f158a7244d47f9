import SchemaDrift.Proofs.Plan.Target

/-!
# What a relation has while a plan is run

A load needs all of its columns, and a warehouse keeps no table without any. A plan that adds and
drops is safe on both counts at every moment, not only at its end, because of two things.

* Every operation **suits** the load: it adds a key of the load or drops a key that is not one. A
  key of the load, once there, is there to stay (`Suits.mem_applyTo`), so a relation that
  **covers** the load goes on covering it (`covers_applyAll`).
* The additions come first. When they are over the load is covered (`covers_appended`), and no
  drop comes before that (`length_newTo_le_of_drop`).

`drops_find_load_covered` puts both together. A list of columns that covers a load with a column
has a column itself, and before that the relation has at least its own.
-/

namespace SchemaDrift

/-- A list of columns **covers** a load if it has a column for every key of the load. -/
def Column.Covers (e : Engine) (incoming cs : List Column) : Prop :=
  ∀ k ∈ incoming.map (·.key e), k ∈ cs.map (·.key e)

/-! ### Operations that suit a load -/

namespace Operation

/-- An operation **suits** a load if it adds a key of the load or drops a key of no column of
the load. -/
def Suits (e : Engine) (incoming : List Column) : Operation → Prop
  | .add c => c.key e ∈ incoming.map (·.key e)
  | .drop c => c.key e ∉ incoming.map (·.key e)

variable {e : Engine} {incoming cs : List Column} {op : Operation} {k : String}

/-- A key of the load stays. -/
theorem Suits.mem_applyTo (h : op.Suits e incoming) (hk : k ∈ incoming.map (·.key e))
    (hmem : k ∈ cs.map (·.key e)) : k ∈ (op.applyTo e cs).map (·.key e) := by
  cases op with
  | add c => exact mem_map_key_applyTo_add.mpr (.inl hmem)
  | drop c => exact mem_map_key_applyTo_drop.mpr ⟨hmem, fun heq => h (heq ▸ hk)⟩

/-- A key that comes in is one of the load. -/
theorem Suits.of_mem_applyTo (h : op.Suits e incoming)
    (hmem : k ∈ (op.applyTo e cs).map (·.key e)) :
    k ∈ cs.map (·.key e) ∨ k ∈ incoming.map (·.key e) := by
  cases op with
  | add c =>
    rcases mem_map_key_applyTo_add.mp hmem with hold | heq
    · exact .inl hold
    · rw [heq]
      exact .inr h
  | drop c => exact .inl (mem_map_key_applyTo_drop.mp hmem).1

/-- An operation that suits the load leaves it covered. -/
theorem Suits.covers_applyTo (h : op.Suits e incoming) (hcovers : Column.Covers e incoming cs) :
    Column.Covers e incoming (op.applyTo e cs) :=
  fun k hk => h.mem_applyTo hk (hcovers k hk)

/-- Operations that suit the load leave it covered. -/
theorem covers_applyAll {ops : List Operation} (hsuits : ∀ op ∈ ops, op.Suits e incoming)
    (hcovers : Column.Covers e incoming cs) : Column.Covers e incoming (applyAll e cs ops) := by
  induction ops generalizing cs with
  | nil => exact hcovers
  | cons op ops ih =>
    have hfirst := (hsuits op List.mem_cons_self).covers_applyTo hcovers
    rw [applyAll_cons]
    exact ih (fun op' hop' => hsuits op' (List.mem_cons_of_mem _ hop')) hfirst

end Operation

theorem Column.Covers.ne_nil {e : Engine} {incoming cs : List Column}
    (h : Covers e incoming cs) (hne : incoming ≠ []) : cs ≠ [] := by
  rintro rfl
  obtain ⟨c, hc⟩ := List.exists_mem_of_ne_nil _ hne
  exact List.not_mem_nil (h _ (List.mem_map_of_mem hc))

/-! ### The operations of a plan, in order -/

namespace Plan

variable {e : Engine} {existing incoming : List Column} {i : Nat} {c : Column}

theorem suits_of_mem_drops {ds : List Column} {op : Operation}
    (hds : ds ⊆ Column.missingFrom e incoming existing) (hop : op ∈ ds.map Operation.drop) :
    op.Suits e incoming := by
  obtain ⟨d, hd, rfl⟩ := List.mem_map.mp hop
  exact (Column.mem_map_key_missingFrom.mp (List.mem_map_of_mem (hds hd))).2

/-- After all additions the load is covered. -/
theorem covers_appended : Column.Covers e incoming (appended e existing incoming) := by
  intro k hk
  rw [appended, List.map_append, Column.map_key_numberFrom, List.mem_append,
    Column.mem_map_key_newTo]
  by_cases hold : k ∈ existing.map (·.key e)
  · exact .inl hold
  · exact .inr ⟨hk, hold⟩

/-- A drop comes after all additions, and is one of a missing column. -/
theorem length_newTo_le_of_drop (h : (syncOperations e existing incoming)[i]? = some (.drop c)) :
    (Column.newTo e existing incoming).length ≤ i
      ∧ c ∈ Column.missingFrom e incoming existing := by
  rw [syncOperations, List.getElem?_append, List.length_map] at h
  split at h
  · -- an addition stands here
    rw [List.getElem?_map, Option.map_eq_some_iff] at h
    obtain ⟨d, -, hd⟩ := h
    cases hd
  · next hlt =>
    rw [List.getElem?_map, Option.map_eq_some_iff] at h
    obtain ⟨d, hd, hdc⟩ := h
    obtain rfl := Operation.drop.inj hdc
    exact ⟨Nat.le_of_not_lt hlt, List.mem_of_getElem? hd⟩

/-- When the additions are over the load is covered, however many drops have been run. -/
theorem covers_applyAll_take (h : (Column.newTo e existing incoming).length ≤ i) :
    Column.Covers e incoming
      (Operation.applyAll e existing ((syncOperations e existing incoming).take i)) := by
  rw [take_syncOperations, List.take_of_length_le h, Operation.applyAll_append,
    Operation.applyAll_additions e existing incoming (List.Sublist.refl _)]
  refine Operation.covers_applyAll (fun op hop => ?_) covers_appended
  exact suits_of_mem_drops (List.take_subset _ _) hop

/-- Until the additions are over the relation has its own columns. -/
theorem applyAll_take_ne_nil (hne : existing ≠ [])
    (h : i ≤ (Column.newTo e existing incoming).length) :
    Operation.applyAll e existing ((syncOperations e existing incoming).take i) ≠ [] := by
  rw [take_syncOperations, Nat.sub_eq_zero_of_le h, List.take_zero, List.map_nil, List.append_nil,
    Operation.applyAll_additions e existing incoming (List.take_sublist _ _)]
  exact List.append_ne_nil_of_left_ne_nil hne _

/-- **No drop runs early.** Whatever the two lists of columns, the plan that adds and drops has a
column for every key of the load before each of its drops and after it, and the key that is
dropped is not one of them. So if neither list is empty, the relation has a column at every
moment of the plan. -/
theorem drops_find_load_covered (e : Engine) (relation : String) (existing incoming : List Column) :
    ∃ p, reconcile e relation existing incoming .syncAllColumns = .ok p
      ∧ (∀ i c, p.operations[i]? = some (.drop c) →
          Column.Covers e incoming (Operation.applyAll e existing (p.operations.take i))
            ∧ c.key e ∉ incoming.map (·.key e)
            ∧ Column.Covers e incoming
                ((Operation.drop c).applyTo e
                  (Operation.applyAll e existing (p.operations.take i))))
      ∧ (existing ≠ [] → incoming ≠ [] →
          ∀ i, Operation.applyAll e existing (p.operations.take i) ≠ []) := by
  obtain ⟨p, hp⟩ : ∃ p, reconcile e relation existing incoming .syncAllColumns = .ok p := ⟨_, rfl⟩
  refine ⟨p, hp, ?_, ?_⟩ <;> rw [operations_sync hp]
  · intro i c hdrop
    obtain ⟨hle, hmissing⟩ := length_newTo_le_of_drop hdrop
    have hcovers := covers_applyAll_take hle
    have hsuits : (Operation.drop c).Suits e incoming :=
      suits_of_mem_drops (List.Subset.refl _) (List.mem_map_of_mem hmissing)
    exact ⟨hcovers, hsuits, hsuits.covers_applyTo hcovers⟩
  · intro hexisting hincoming i
    rcases Nat.le_total i (Column.newTo e existing incoming).length with hle | hle
    · exact applyAll_take_ne_nil hexisting hle
    · exact (covers_applyAll_take hle).ne_nil hincoming

/-- A table of one column is turned into a table of another. -/
theorem drops_find_load_covered_renamed :
    ∃ p, reconcile Dialect.ansi.engine "orders" [⟨"note", "STRING", 1⟩] [⟨"memo", "STRING", 1⟩]
          .syncAllColumns = .ok p
      ∧ p.operations[1]? = some (.drop ⟨"note", "STRING", 1⟩)
      ∧ "MEMO" ∈ (Operation.applyAll Dialect.ansi.engine [⟨"note", "STRING", 1⟩]
          (p.operations.take 1)).map (·.key Dialect.ansi.engine)
      ∧ Operation.applyAll Dialect.ansi.engine [⟨"note", "STRING", 1⟩] (p.operations.take 2)
          ≠ [] := by
  obtain ⟨p, hp, hdrops, hne⟩ := drops_find_load_covered Dialect.ansi.engine "orders"
    [⟨"note", "STRING", 1⟩] [⟨"memo", "STRING", 1⟩]
  have hdrop : p.operations[1]? = some (.drop ⟨"note", "STRING", 1⟩) := by
    rw [operations_sync hp]
    decide +kernel
  have hmemo : "MEMO" ∈ [⟨"memo", "STRING", 1⟩].map (Column.key Dialect.ansi.engine) := by
    decide +kernel
  exact ⟨p, hp, hdrop, (hdrops 1 _ hdrop).1 _ hmemo,
    hne (List.cons_ne_nil _ _) (List.cons_ne_nil _ _) 2⟩

end Plan

end SchemaDrift
