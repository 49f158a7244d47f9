import SchemaDrift.Proofs.Plan.Target

/-!
# Planning again after an interruption

A run that stops after some of its operations leaves the relation between its old columns and
the target. Planned for again, the relation is led to the very target of the first plan,
positions included (`appended_resumes`, `synced_resumes`).

There are two ways to be interrupted.

* **While columns are added.** The columns added so far are no longer new and the others still
  are, in their order; what is missing is missing as before. The second plan is the rest of the
  first.
* **While columns are dropped.** Every new column is there, so nothing is new. What is still
  missing is dropped, but the second plan need not be the rest of the first: where several
  columns share a key, one drop has taken them all. The list is numbered already
  (`synced_of_number_eq`), so it makes no difference whether there is a drop left to number it.
-/

namespace SchemaDrift

namespace Column

variable {e : Engine} {existing incoming : List Column}

/-- The keys of the first new columns are keys of the load. -/
private theorem mem_of_mem_map_key_take {i n : Nat} {k : String}
    (h : k ∈ (numberFrom n ((newTo e existing incoming).take i)).map (·.key e)) :
    k ∈ incoming.map (·.key e) := by
  rw [map_key_numberFrom] at h
  exact (mem_map_key_newTo.mp ((List.map_subset _ (List.take_subset _ _)) h)).1

end Column

namespace Plan

variable (e : Engine) (existing incoming : List Column)

/-! ### Interrupted while columns are added -/

/-- The columns of a relation after its first `i` additions. -/
def partlyAppended (i : Nat) : List Column :=
  existing ++ Column.numberFrom existing.length ((Column.newTo e existing incoming).take i)

theorem applyAll_take_additions (i : Nat) :
    Operation.applyAll e existing (((Column.newTo e existing incoming).take i).map .add)
      = partlyAppended e existing incoming i :=
  Operation.applyAll_additions e existing incoming (List.take_sublist _ _)

theorem newTo_partlyAppended (i : Nat) :
    Column.newTo e (partlyAppended e existing incoming i) incoming
      = (Column.newTo e existing incoming).drop i :=
  Column.newTo_append_take i (Column.map_key_numberFrom e _ _)

theorem missingFrom_partlyAppended (i : Nat) :
    Column.missingFrom e incoming (partlyAppended e existing incoming i)
      = Column.missingFrom e incoming existing :=
  Column.missingFrom_append fun _ hk => Column.mem_of_mem_map_key_take hk

/-- The columns still to be added take the positions that the first plan has for them. -/
theorem appended_partlyAppended (i : Nat) :
    appended e (partlyAppended e existing incoming i) incoming = appended e existing incoming := by
  have hlen : (partlyAppended e existing incoming i).length
      = existing.length + ((Column.newTo e existing incoming).take i).length := by
    rw [partlyAppended, List.length_append, Column.length_numberFrom]
  rw [appended, newTo_partlyAppended, hlen, partlyAppended, List.append_assoc,
    ← Column.numberFrom_append, List.take_append_drop, appended]

theorem synced_partlyAppended (i : Nat) :
    synced e (partlyAppended e existing incoming i) incoming = synced e existing incoming := by
  rw [synced, missingFrom_partlyAppended, appended_partlyAppended, newTo_partlyAppended, synced]
  split
  · rfl
  · have hkept : Column.keptBy e incoming (partlyAppended e existing incoming i)
        = Column.keptBy e incoming existing
          ++ Column.numberFrom existing.length ((Column.newTo e existing incoming).take i) :=
      Column.keptBy_append fun _ hk => Column.mem_of_mem_map_key_take hk
    refine Column.number_congr ?_
    rw [hkept, List.append_assoc, List.map_append, List.map_append, List.map_append,
      Column.map_declaration_numberFrom, ← List.map_append, List.take_append_drop]

/-! ### Interrupted while columns are dropped -/

/-- A relation that is numbered already is numbered by its plan, drop or no drop. -/
theorem synced_of_number_eq {cs : List Column} (h : Column.number cs = cs) :
    synced e cs incoming
      = Column.number (Column.keptBy e incoming cs ++ Column.newTo e cs incoming) := by
  rw [synced]
  split
  · next hnil =>
    have hkept := Column.keptBy_eq_self (Column.missingFrom_eq_nil_iff.mp hnil)
    rw [hkept, Column.number_eq_numberFrom, Column.numberFrom_append, Nat.zero_add,
      ← Column.number_eq_numberFrom, h, appended]
  · rfl

/-- The columns of a relation after all additions and its first `i` drops. -/
def partlySynced (i : Nat) : List Column :=
  Operation.applyAll e (appended e existing incoming)
    (((Column.missingFrom e incoming existing).take i).map .drop)

/-- The drops so far took no column that the load has. -/
theorem map_declaration_keptBy_partlySynced {i : Nat}
    (hne : (Column.missingFrom e incoming existing).take i ≠ []) :
    (Column.keptBy e incoming (partlySynced e existing incoming i)).map Column.declaration
      = (Column.keptBy e incoming existing ++ Column.newTo e existing incoming).map
          Column.declaration := by
  have hkeys : ∀ k ∈ ((Column.missingFrom e incoming existing).take i).map (·.key e),
      k ∉ incoming.map (·.key e) := fun k hk =>
    (Column.mem_map_key_missingFrom.mp ((List.map_subset _ (List.take_subset _ _)) hk)).2
  have hnew : ∀ k ∈ (Column.numberFrom existing.length (Column.newTo e existing incoming)).map
      (·.key e), k ∈ incoming.map (·.key e) := by
    intro k hk
    rw [Column.map_key_numberFrom] at hk
    exact (Column.mem_map_key_newTo.mp hk).1
  -- the drops and the selection of kept columns are both filters on keys, and the second is the
  -- stricter one
  have hfilter : (Column.keptBy e incoming (partlySynced e existing incoming i)).map
        Column.declaration
      = (Column.keptBy e incoming (appended e existing incoming)).map Column.declaration := by
    rw [partlySynced, Operation.applyAll_map_drop hne, Column.keptBy,
      Column.map_declaration_filter_congr e (fun k => k ∈ incoming.map (·.key e))
        (Column.map_declaration_number _),
      List.filter_filter, Column.keptBy]
    congr 1
    refine List.filter_congr fun c _ => ?_
    rw [Bool.and_eq_left_iff_imp]
    intro hc
    exact decide_eq_true fun hmem => hkeys _ hmem (of_decide_eq_true hc)
  rw [hfilter, appended, Column.keptBy_append hnew, List.map_append, List.map_append,
    Column.map_declaration_numberFrom]

/-- While columns are dropped every key of the load is there. -/
theorem newTo_partlySynced {i : Nat}
    (hne : (Column.missingFrom e incoming existing).take i ≠ []) :
    Column.newTo e (partlySynced e existing incoming i) incoming = [] := by
  rw [Column.newTo_eq_nil_iff]
  intro k hk
  have hkept := (Column.sameKeys_keptBy_append_newTo e existing incoming k).mpr hk
  have hkeys := Column.map_key_congr e (map_declaration_keptBy_partlySynced e existing incoming hne)
  rw [← hkeys] at hkept
  exact (List.filter_sublist.map _).subset hkept

theorem synced_partlySynced {i : Nat} (hne : (Column.missingFrom e incoming existing).take i ≠ []) :
    synced e (partlySynced e existing incoming i) incoming = synced e existing incoming := by
  have hmissing : Column.missingFrom e incoming existing ≠ [] := by
    intro hnil
    rw [hnil, List.take_nil] at hne
    exact hne rfl
  have hnumbered : Column.number (partlySynced e existing incoming i)
      = partlySynced e existing incoming i := by
    rw [partlySynced, Operation.applyAll_map_drop hne, Column.number_number]
  rw [synced_of_number_eq e incoming hnumbered, newTo_partlySynced e existing incoming hne,
    List.append_nil, synced, if_neg hmissing]
  exact Column.number_congr (map_declaration_keptBy_partlySynced e existing incoming hne)

/-! ### Interrupted anywhere -/

theorem appended_resumes (k : Nat) :
    appended e (Operation.applyAll e existing
        (((Column.newTo e existing incoming).map .add).take k)) incoming
      = appended e existing incoming := by
  rw [← List.map_take, applyAll_take_additions, appended_partlyAppended]

/-- A run is interrupted while columns are added or while columns are dropped. -/
theorem applyAll_take_syncOperations (k : Nat) :
    Operation.applyAll e existing ((syncOperations e existing incoming).take k)
        = partlyAppended e existing incoming k
      ∨ ∃ i, (Column.missingFrom e incoming existing).take i ≠ []
        ∧ Operation.applyAll e existing ((syncOperations e existing incoming).take k)
          = partlySynced e existing incoming i := by
  rw [take_syncOperations]
  by_cases hdrops : (Column.missingFrom e incoming existing).take
      (k - (Column.newTo e existing incoming).length) = []
  · left
    rw [hdrops, List.map_nil, List.append_nil, applyAll_take_additions]
  · right
    -- a drop has been run, so the additions are over
    have hlen : (Column.newTo e existing incoming).length ≤ k := by
      by_contra hlt
      have hzero : k - (Column.newTo e existing incoming).length = 0 := by omega
      rw [hzero, List.take_zero] at hdrops
      exact hdrops rfl
    refine ⟨k - (Column.newTo e existing incoming).length, hdrops, ?_⟩
    rw [List.take_of_length_le hlen, Operation.applyAll_append,
      Operation.applyAll_additions e existing incoming (List.Sublist.refl _)]
    rfl

theorem synced_resumes (k : Nat) :
    synced e (Operation.applyAll e existing ((syncOperations e existing incoming).take k)) incoming
      = synced e existing incoming := by
  rcases applyAll_take_syncOperations e existing incoming k with hadding | ⟨i, hne, hdropping⟩
  · rw [hadding, synced_partlyAppended]
  · rw [hdropping, synced_partlySynced e existing incoming hne]

/-- An interruption leaves a relation without columns only if the load has none: the drops begin
when every column of the load is there. -/
theorem incoming_eq_nil_of_interrupted (hne : existing ≠ []) {k : Nat}
    (h : Operation.applyAll e existing ((syncOperations e existing incoming).take k) = []) :
    incoming = [] := by
  rcases applyAll_take_syncOperations e existing incoming k with hadding | ⟨i, hdrops, hdropping⟩
  · rw [hadding, partlyAppended, List.append_eq_nil_iff] at h
    exact absurd h.1 hne
  · have hnew := newTo_partlySynced e existing incoming hdrops
    rw [← hdropping, h, Column.newTo_eq_nil_iff] at hnew
    exact List.map_eq_nil_iff.mp (List.eq_nil_iff_forall_not_mem.mpr fun k hk =>
      List.not_mem_nil (hnew k hk))

end Plan

end SchemaDrift
