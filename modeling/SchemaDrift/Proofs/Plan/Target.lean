import SchemaDrift.Plan
import SchemaDrift.Proofs.Drift.Additions
import SchemaDrift.Proofs.Operation.Runs

/-!
# The target of a plan

A plan finds its target by running its operations on the columns of the relation. Here the
target is told without running anything: what the relation keeps, then what is new in the load.

* `applyAll_additions`: adding the new columns appends them and leaves the relation untouched.
* `applyAll_removals`: dropping the missing columns afterwards keeps exactly the columns that the
  load has too, and the new ones, numbered from one.
* `reconcile_answers`: under every policy planning answers what the policy promises.

The additions come first, so when the drops begin every key of the load is there; since no
missing column has such a key, no drop takes one away again. Neither list need be free of
duplicates: of equal keys in the load only the first is new, and a key that several columns of
the relation share is kept or dropped in all of them.
-/

namespace SchemaDrift

namespace Operation

variable (e : Engine) (existing incoming : List Column)

/-- Adding new columns, all of them or some, appends them. -/
theorem applyAll_additions {new : List Column}
    (h : new.Sublist (Column.newTo e existing incoming)) :
    applyAll e existing (new.map .add) = existing ++ Column.numberFrom existing.length new := by
  have hnodup := Column.nodup_map_key_newTo e existing incoming
  refine applyAll_map_add (fun d hd => ?_) (hnodup.sublist (h.map _))
  exact (Column.mem_map_key_newTo.mp (List.mem_map_of_mem (h.subset hd))).2

/-- Dropping the missing columns from a relation with new columns keeps what the load has. -/
theorem applyAll_removals (n : Nat) {new : List Column}
    (hnew : ∀ k ∈ new.map (·.key e), k ∈ incoming.map (·.key e))
    (hne : Column.missingFrom e incoming existing ≠ []) :
    applyAll e (existing ++ Column.numberFrom n new)
        ((Column.missingFrom e incoming existing).map .drop)
      = Column.number (Column.keptBy e incoming existing ++ new) := by
  have hnumbered : ∀ k ∈ (Column.numberFrom n new).map (·.key e), k ∈ incoming.map (·.key e) := by
    rwa [Column.map_key_numberFrom]
  have hkeys : ∀ k ∈ (existing ++ Column.numberFrom n new).map (·.key e),
      k ∈ existing.map (·.key e) ∨ k ∈ incoming.map (·.key e) := by
    intro k hk
    rw [List.map_append, List.mem_append] at hk
    exact hk.imp id (hnumbered k)
  rw [applyAll_map_drop hne, Column.filter_not_missingFrom hkeys, Column.keptBy_append hnumbered]
  refine Column.number_congr ?_
  rw [List.map_append, List.map_append, Column.map_declaration_numberFrom]

end Operation

namespace Plan

variable (e : Engine) (relation : String) (existing incoming : List Column)

/-- The columns of the relation once everything new has been added. -/
def appended : List Column :=
  existing ++ Column.numberFrom existing.length (Column.newTo e existing incoming)

/-- The columns of the relation once everything new has been added and everything missing has
been dropped. Where nothing is missing nothing is numbered. -/
def synced : List Column :=
  if Column.missingFrom e incoming existing = [] then appended e existing incoming
  else Column.number (Column.keptBy e incoming existing ++ Column.newTo e existing incoming)

/-- The operations of the plan that adds and drops. -/
def syncOperations : List Operation :=
  (Column.newTo e existing incoming).map .add ++ (Column.missingFrom e incoming existing).map .drop

/-- The first operations are additions, then drops when the additions are over. -/
theorem take_syncOperations (i : Nat) :
    (syncOperations e existing incoming).take i
      = ((Column.newTo e existing incoming).take i).map .add
        ++ ((Column.missingFrom e incoming existing).take
              (i - (Column.newTo e existing incoming).length)).map .drop := by
  rw [syncOperations, List.take_append, List.length_map, ← List.map_take, ← List.map_take]

theorem applyAll_syncOperations :
    Operation.applyAll e existing (syncOperations e existing incoming)
      = synced e existing incoming := by
  rw [syncOperations, Operation.applyAll_append,
    Operation.applyAll_additions e existing incoming (List.Sublist.refl _), synced]
  split
  · next hnil =>
    rw [hnil]
    rfl
  · next hne =>
    exact Operation.applyAll_removals e existing incoming _
      (fun k hk => (Column.mem_map_key_newTo.mp hk).1) hne

/-- What is missing makes no difference to the names and types of the target. -/
theorem map_declaration_synced :
    (synced e existing incoming).map Column.declaration
      = (Column.keptBy e incoming existing ++ Column.newTo e existing incoming).map
          Column.declaration := by
  rw [synced]
  split
  · next hnil =>
    have hkept := Column.keptBy_eq_self (Column.missingFrom_eq_nil_iff.mp hnil)
    rw [hkept, appended, List.map_append, List.map_append, Column.map_declaration_numberFrom]
  · rw [Column.map_declaration_number]

/-- The target has the keys of the load. -/
theorem sameKeys_synced : Column.SameKeys e (synced e existing incoming) incoming := by
  intro k
  rw [Column.map_key_congr e (map_declaration_synced e existing incoming)]
  exact Column.sameKeys_keptBy_append_newTo e existing incoming k

/-! ### The operations and the target under each policy -/

section Made

variable {e relation existing incoming} {policy : Policy} {p : Plan}

/-- A plan is the one that runs its operations on the drift between the two lists. -/
theorem eq_running_of_reconcile (h : reconcile e relation existing incoming policy = .ok p) :
    p = running e relation policy existing (Drift.between e existing incoming) p.operations := by
  simp only [reconcile] at h
  split at h
  · obtain rfl := Except.ok.inj h
    rfl
  · cases h

/-- The target of a plan is what its operations make of the columns of the relation. -/
theorem target_of_reconcile (h : reconcile e relation existing incoming policy = .ok p) :
    p.target = Operation.applyAll e existing p.operations := by
  rw [eq_running_of_reconcile h]
  rfl

/-- The operations of a plan: additions if the policy adds columns, then drops if it drops any.
A policy that refuses drift has no plan but the empty one. -/
theorem operations_of_reconcile (h : reconcile e relation existing incoming policy = .ok p) :
    p.operations
      = (if addsColumns policy then (Column.newTo e existing incoming).map .add else [])
        ++ if dropsColumns policy then (Column.missingFrom e incoming existing).map .drop
          else [] := by
  cases policy with
  | ignore =>
    obtain rfl := Except.ok.inj h
    rfl
  | appendNewColumns =>
    obtain rfl := Except.ok.inj h
    simp [running, addsColumns, dropsColumns, Drift.added_between]
  | syncAllColumns =>
    obtain rfl := Except.ok.inj h
    simp [running, addsColumns, dropsColumns, Drift.added_between, Drift.removed_between]
  | fail =>
    simp only [reconcile, operationsFor?] at h
    split at h
    · next hops =>
      obtain rfl := Except.ok.inj h
      split at hops
      · cases hops
        rfl
      · cases hops
    · cases h

/-- Only one policy refuses drift. -/
theorem policy_of_reconcile_error {o : OutOfSync}
    (h : reconcile e relation existing incoming policy = .error o) : policy = .fail := by
  cases policy with
  | ignore | appendNewColumns | syncAllColumns => cases h
  | fail => rfl

theorem operations_append
    (h : reconcile e relation existing incoming .appendNewColumns = .ok p) :
    p.operations = (Column.newTo e existing incoming).map .add :=
  (operations_of_reconcile h).trans (List.append_nil _)

theorem operations_sync (h : reconcile e relation existing incoming .syncAllColumns = .ok p) :
    p.operations = syncOperations e existing incoming :=
  operations_of_reconcile h

theorem target_append (h : reconcile e relation existing incoming .appendNewColumns = .ok p) :
    p.target = appended e existing incoming := by
  rw [target_of_reconcile h, operations_append h]
  exact Operation.applyAll_additions e existing incoming (List.Sublist.refl _)

theorem target_sync (h : reconcile e relation existing incoming .syncAllColumns = .ok p) :
    p.target = synced e existing incoming := by
  rw [target_of_reconcile h, operations_sync h, applyAll_syncOperations]

end Made

theorem reconcile_fail_of_sameKeys (h : Column.SameKeys e existing incoming) :
    ∃ p, reconcile e relation existing incoming .fail = .ok p
      ∧ p.operations = [] ∧ p.target = existing := by
  have hempty := Drift.isEmpty_between_iff.mpr h
  refine ⟨running e relation .fail existing (Drift.between e existing incoming) [], ?_, rfl, rfl⟩
  simp only [reconcile, operationsFor?, if_pos hempty]

theorem reconcile_fail_of_not_sameKeys (h : ¬Column.SameKeys e existing incoming) :
    reconcile e relation existing incoming .fail
      = .error ⟨relation, (Column.newTo e existing incoming).map (·.name),
          (Column.missingFrom e incoming existing).map (·.name)⟩ := by
  have hdrift := mt Drift.isEmpty_between_iff.mp h
  simp only [reconcile, operationsFor?, if_neg hdrift, Drift.addedNames, Drift.removedNames,
    Drift.added_between, Drift.removed_between]

section Refused

variable {e relation existing incoming} {policy : Policy}

/-- Planning makes a plan unless the policy refuses drift and there is some. -/
theorem exists_reconcile_iff :
    (∃ p, reconcile e relation existing incoming policy = .ok p)
      ↔ (policy = .fail → Column.SameKeys e existing incoming) := by
  constructor
  · rintro ⟨p, hp⟩ rfl
    by_contra hdrift
    rw [reconcile_fail_of_not_sameKeys e relation existing incoming hdrift] at hp
    cases hp
  · intro h
    cases policy with
    | ignore | appendNewColumns | syncAllColumns => exact ⟨_, rfl⟩
    | fail =>
      obtain ⟨p, hp, -⟩ := reconcile_fail_of_sameKeys e relation existing incoming (h rfl)
      exact ⟨p, hp⟩

theorem not_sameKeys_of_reconcile_error {o : OutOfSync}
    (h : reconcile e relation existing incoming policy = .error o) :
    ¬Column.SameKeys e existing incoming := by
  intro hsame
  obtain ⟨p, hp⟩ : ∃ p, reconcile e relation existing incoming policy = .ok p :=
    exists_reconcile_iff.mpr fun _ => hsame
  rw [hp] at h
  cases h

end Refused

/-- What planning **answers** under a policy.

* Under `syncAllColumns` the target has, by name and type, the columns of the relation that the
  load has too, then the columns that are new.
* Under `appendNewColumns` the target is the relation as it stands, then the columns that are
  new, numbered on.
* Under `ignore` nothing is to be done.
* Under `fail` nothing is to be done when the keys agree, and otherwise the drift is refused
  with the names on either side. -/
def Answers : Policy → Except OutOfSync Plan → Prop
  | .syncAllColumns, answer => ∃ p, answer = .ok p
      ∧ p.target.map Column.declaration
        = (Column.keptBy e incoming existing ++ Column.newTo e existing incoming).map
            Column.declaration
  | .appendNewColumns, answer => ∃ p, answer = .ok p
      ∧ p.target = existing
        ++ Column.numberFrom existing.length (Column.newTo e existing incoming)
  | .ignore, answer => ∃ p, answer = .ok p ∧ p.operations = [] ∧ p.target = existing
  | .fail, answer =>
      (Column.SameKeys e existing incoming →
        ∃ p, answer = .ok p ∧ p.operations = [] ∧ p.target = existing)
      ∧ (¬Column.SameKeys e existing incoming →
        answer = .error ⟨relation, (Column.newTo e existing incoming).map (·.name),
          (Column.missingFrom e incoming existing).map (·.name)⟩)

/-- **Planning in closed form.** Whatever the engine, the two lists of columns and the policy,
planning answers what the policy promises. -/
theorem reconcile_answers (policy : Policy) :
    Answers e relation existing incoming policy
      (reconcile e relation existing incoming policy) := by
  cases policy with
  | ignore => exact ⟨_, rfl, rfl, rfl⟩
  | appendNewColumns => exact ⟨_, rfl, target_append rfl⟩
  | syncAllColumns =>
    refine ⟨_, rfl, ?_⟩
    rw [target_sync rfl, map_declaration_synced]
  | fail =>
    exact ⟨reconcile_fail_of_sameKeys e relation existing incoming,
      reconcile_fail_of_not_sameKeys e relation existing incoming⟩

end Plan

end SchemaDrift
