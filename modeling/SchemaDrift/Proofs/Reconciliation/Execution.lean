import SchemaDrift.Proofs.Plan.Target
import SchemaDrift.Reconciliation

/-!
# Reconciliations carry out their plans

A reconciliation acts on a warehouse, a plan on a list of columns. `reconcile_refines` says that
the first does what the second says, whatever the warehouse holds:

* columns that cannot be read are an error, and a relation that is not there is left to the load;
* drift that the policy refuses is an error;
* a plan whose statements are all allowed is carried out, and the columns of the relation are
  then its target;
* a plan with a statement that is not allowed is carried out up to the first such statement.

`Warehouse.Altered` is the frame of all four: a warehouse that differs from another in the
columns of one relation and in what its log has gained, and in nothing else. It composes
(`Altered.trans`), so a run is followed one statement at a time.
-/

namespace SchemaDrift

namespace Warehouse

/-- A warehouse **altered** in one relation by operations that were run on it. -/
structure Altered (r : Relation) (cs : List Column) (ops : List Operation) (w w' : Warehouse) :
    Prop where
  /-- The relation has these columns now. -/
  stored : w'.columns.find? r.qualifiedName = some cs
  /-- The log has gained these operations, in order. -/
  logged : w'.executed = w.executed ++ ops.map (r.qualifiedName, ·)
  /-- The relations of other names have the columns they had. -/
  others : ∀ name, name ≠ r.qualifiedName → w'.columns.find? name = w.columns.find? name
  /-- Nothing but columns and log has changed. -/
  rest : w' = { w with columns := w'.columns, executed := w'.executed }

/-- Whether statements on the column of an operation are allowed: no error is set for it. -/
def Allows (w : Warehouse) (op : Operation) : Prop :=
  w.statementErrors.find? op.column.name = none

namespace Altered

variable {r : Relation} {cs cs' : List Column} {ops ops' : List Operation}
  {w w' w'' : Warehouse}

protected theorem refl (h : w.columns.find? r.qualifiedName = some cs) : Altered r cs [] w w :=
  ⟨h, (List.append_nil _).symm, fun _ _ => rfl, rfl⟩

protected theorem trans (h : Altered r cs ops w w') (h' : Altered r cs' ops' w' w'') :
    Altered r cs' (ops ++ ops') w w'' where
  stored := h'.stored
  logged := by rw [h'.logged, h.logged, List.map_append, List.append_assoc]
  others name hname := (h'.others name hname).trans (h.others name hname)
  rest := by
    rw [h'.rest, h.rest]

theorem engine_eq (h : Altered r cs ops w w') : w'.engine = w.engine := by
  rw [h.rest]

theorem errors_eq (h : Altered r cs ops w w') : w'.errors = w.errors := by
  rw [h.rest]

theorem statementErrors_eq (h : Altered r cs ops w w') :
    w'.statementErrors = w.statementErrors := by
  rw [h.rest]

theorem allows_iff (h : Altered r cs ops w w') (op : Operation) : w'.Allows op ↔ w.Allows op := by
  rw [Allows, Allows, h.statementErrors_eq]

end Altered

/-! ### One statement -/

variable {r : Relation} {cs : List Column} {w : Warehouse}

/-- An allowed statement on a stored relation is run. -/
theorem execute_of_allows {op : Operation} (hstored : w.columns.find? r.qualifiedName = some cs)
    (hallows : w.Allows op) :
    ∃ w', w.execute r op = .ok w' ∧ Altered r (op.applyTo w.engine cs) [op] w w' := by
  rw [Allows] at hallows
  refine ⟨_, by rw [execute, hallows, hstored], ?_, rfl, fun name hname => ?_, rfl⟩
  · rw [Dictionary.find?_insert, if_pos rfl]
  · rw [Dictionary.find?_insert, if_neg hname]

theorem execute_of_statementError {op : Operation} {err : FetchError}
    (h : w.statementErrors.find? op.column.name = some err) : w.execute r op = .error err := by
  rw [execute, h]

/-! ### Several statements -/

/-- Allowed statements are all run. -/
theorem runFrom_of_allows (i : Nat) {ops : List Operation}
    (hstored : w.columns.find? r.qualifiedName = some cs) (hallows : ∀ op ∈ ops, w.Allows op) :
    ∃ w', runFrom r i w ops = (w', .ok ())
      ∧ Altered r (Operation.applyAll w.engine cs ops) ops w w' := by
  induction ops generalizing i w cs with
  | nil => exact ⟨w, rfl, Altered.refl hstored⟩
  | cons op ops ih =>
    obtain ⟨w₁, hw₁, h₁⟩ := execute_of_allows hstored (hallows op List.mem_cons_self)
    have hrest : ∀ op' ∈ ops, w₁.Allows op' := fun op' hop' =>
      (h₁.allows_iff op').mpr (hallows op' (List.mem_cons_of_mem _ hop'))
    obtain ⟨w₂, hw₂, h₂⟩ := ih (i + 1) h₁.stored hrest
    refine ⟨w₂, ?_, ?_⟩
    · rw [runFrom, hw₁]
      exact hw₂
    · rw [h₁.engine_eq] at h₂
      exact h₁.trans h₂

/-- Statements that are run leave the rest of a run to the warehouse they lead to. -/
theorem runFrom_append (i : Nat) {ops : List Operation} {w' : Warehouse}
    (h : runFrom r i w ops = (w', .ok ())) (rest : List Operation) :
    runFrom r i w (ops ++ rest) = runFrom r (i + ops.length) w' rest := by
  induction ops generalizing i w with
  | nil =>
    obtain rfl : w = w' := congrArg Prod.fst h
    rfl
  | cons op ops ih =>
    rw [runFrom] at h
    split at h
    · next w₁ hw₁ =>
      rw [List.cons_append, runFrom, hw₁, List.length_cons]
      have hlen : i + (ops.length + 1) = i + 1 + ops.length := by omega
      rw [hlen]
      exact ih (i + 1) h
    · cases congrArg Prod.snd h

/-- A run stops at the first statement that is not allowed. -/
theorem runFrom_of_statementError (i : Nat) {ran : List Operation} {op : Operation}
    {err : FetchError} (hstored : w.columns.find? r.qualifiedName = some cs)
    (hallows : ∀ op ∈ ran, w.Allows op) (herr : w.statementErrors.find? op.column.name = some err)
    (rest : List Operation) :
    ∃ w', runFrom r i w (ran ++ op :: rest)
        = (w', .error (.statement r.qualifiedName (i + ran.length) op err))
      ∧ Altered r (Operation.applyAll w.engine cs ran) ran w w' := by
  obtain ⟨w', hw', h⟩ := runFrom_of_allows i hstored hallows
  refine ⟨w', ?_, h⟩
  have herr' : w'.statementErrors.find? op.column.name = some err := by
    rw [h.statementErrors_eq, herr]
  rw [runFrom_append i hw', runFrom, execute_of_statementError herr']

/-- Either all statements are allowed, or there is a first one that is not. -/
theorem allows_or_first_error (w : Warehouse) (ops : List Operation) :
    (∀ op ∈ ops, w.Allows op) ∨ ∃ ran op rest err, ops = ran ++ op :: rest
      ∧ (∀ op' ∈ ran, w.Allows op') ∧ w.statementErrors.find? op.column.name = some err := by
  induction ops with
  | nil => exact .inl fun _ h => absurd h List.not_mem_nil
  | cons op ops ih =>
    cases hop : w.statementErrors.find? op.column.name with
    | some err => exact .inr ⟨[], op, ops, err, rfl, fun _ h => absurd h List.not_mem_nil, hop⟩
    | none =>
      rcases ih with hall | ⟨ran, op', rest, err, rfl, hran, herr⟩
      · exact .inl (List.forall_mem_cons.mpr ⟨hop, hall⟩)
      · exact .inr ⟨op :: ran, op', rest, err, rfl, List.forall_mem_cons.mpr ⟨hop, hran⟩, herr⟩

/-- A run that ends with an error has stopped at a statement, and has run those before it. -/
theorem altered_of_run_error {ops : List Operation} {w' : Warehouse} {cause : ReconcileError}
    (hstored : w.columns.find? r.qualifiedName = some cs)
    (h : w.run r ops = (w', .error cause)) :
    ∃ k op err, cause = .statement r.qualifiedName k op err ∧ ops[k]? = some op
      ∧ Altered r (Operation.applyAll w.engine cs (ops.take k)) (ops.take k) w w' := by
  rw [run] at h
  rcases allows_or_first_error w ops with hall | ⟨ran, op, rest, err, rfl, hran, herr⟩
  · obtain ⟨w₁, hw₁, -⟩ := runFrom_of_allows 0 hstored hall
    rw [hw₁] at h
    cases congrArg Prod.snd h
  · obtain ⟨w₁, hw₁, halt⟩ := runFrom_of_statementError 0 hstored hran herr rest
    rw [hw₁, Nat.zero_add] at h
    obtain ⟨rfl, hcause⟩ := Prod.mk.inj h
    refine ⟨ran.length, op, err, (Except.error.inj hcause).symm, ?_, ?_⟩
    · rw [List.getElem?_append_right (Nat.le_refl _), Nat.sub_self]
      rfl
    · rwa [List.take_left]

/-! ### What is stored for a relation -/

/-- The warehouse **holds** these columns for a relation: they can be read, and there are some. -/
def Holds (w : Warehouse) (r : Relation) (cs : List Column) : Prop :=
  w.errors.find? r.qualifiedName = none ∧ w.columns.find? r.qualifiedName = some cs ∧ cs ≠ []

/-- The warehouse **lacks** a relation: it says that the relation is missing, or has nothing
stored for it, or no column. -/
def Lacks (w : Warehouse) (r : Relation) : Prop :=
  (∃ err, w.errors.find? r.qualifiedName = some err ∧ err.isNotFound = true)
    ∨ (w.errors.find? r.qualifiedName = none
      ∧ (w.columns.find? r.qualifiedName = none ∨ w.columns.find? r.qualifiedName = some []))

end Warehouse

/-! ### The columns that a reconciliation reads -/

namespace Session

variable {s : Session} {w : Warehouse} {r : Relation}

theorem columnsIn_of_error {err : FetchError} (h : w.errors.find? r.qualifiedName = some err)
    (hfound : err.isNotFound = false) : columnsIn w r = .error err := by
  simp [columnsIn, Listing.columns, Warehouse.fetchColumns, Warehouse.answer, h,
    FetchError.whenMissing, hfound]

theorem columnsIn_of_lacks (h : w.Lacks r) : columnsIn w r = .ok [] := by
  rcases h with ⟨err, herr, hmissing⟩ | ⟨herr, hcols | hcols⟩
  · simp [columnsIn, Listing.columns, Warehouse.fetchColumns, Warehouse.answer, herr,
      FetchError.whenMissing, hmissing]
  · simp [columnsIn, Listing.columns, Warehouse.fetchColumns, Warehouse.answer, herr, hcols,
      FetchError.whenMissing, FetchError.isNotFound]
  · simp [columnsIn, Listing.columns, Warehouse.fetchColumns, Warehouse.answer, herr, hcols,
      FetchError.whenMissing]

theorem columnsIn_of_stored {cs : List Column} (herr : w.errors.find? r.qualifiedName = none)
    (hcols : w.columns.find? r.qualifiedName = some cs) : columnsIn w r = .ok cs := by
  simp [columnsIn, Listing.columns, Warehouse.fetchColumns, Warehouse.answer, herr, hcols,
    FetchError.whenMissing]

theorem planFor_of_ne_nil {cs incoming : List Column} {policy : Policy} (h : cs ≠ []) :
    s.planFor r cs incoming policy
      = Plan.reconcile s.engine r.qualifiedName cs incoming policy := by
  rw [planFor, if_neg]
  rwa [List.isEmpty_iff]

/-- Reconciling a relation that holds columns is planning for these columns, then running. -/
theorem reconcile_of_holds {cs incoming : List Column} {policy : Policy} {plan : Plan}
    (h : w.Holds r cs)
    (hplan : Plan.reconcile s.engine r.qualifiedName cs incoming policy = .ok plan) :
    s.reconcile w r incoming policy
      = ((w.run r plan.operations).1, (w.run r plan.operations).2.map fun _ => plan) := by
  rw [reconcile, columnsIn_of_stored h.1 h.2.1]
  simp only [reconcileFetched, planFor_of_ne_nil h.2.2, hplan]

/-! ### Refinement -/

/-- A reconciliation **refines** its plan: what it answers, and what it makes of the warehouse,
in each of the cases that what is stored for the relation leaves open. -/
structure Refines (s : Session) (w : Warehouse) (r : Relation) (incoming : List Column)
    (policy : Policy) : Prop where
  /-- Columns that cannot be read are an error. -/
  unreadable : ∀ err, w.errors.find? r.qualifiedName = some err → err.isNotFound = false →
    s.reconcile w r incoming policy = (w, .error (.fetch r.qualifiedName err))
  /-- A relation that is not there is left to the load. -/
  absent : w.Lacks r → ∃ plan, s.reconcile w r incoming policy = (w, .ok plan)
    ∧ plan.target = incoming ∧ plan.operations = []
  /-- A refusal of the drift is an error. -/
  refused : ∀ cs o, w.Holds r cs →
    Plan.reconcile s.engine r.qualifiedName cs incoming policy = .error o →
    s.reconcile w r incoming policy = (w, .error (.drift o))
  /-- Where every statement is allowed the columns become the target of the plan. -/
  executed : ∀ cs plan, w.Holds r cs →
    Plan.reconcile s.engine r.qualifiedName cs incoming policy = .ok plan →
    (∀ op ∈ plan.operations, w.statementErrors.find? op.column.name = none) →
    ∃ w', s.reconcile w r incoming policy = (w', .ok plan)
      ∧ Warehouse.Altered r plan.target plan.operations w w'
  /-- The first statement that is not allowed ends the run; those before it have been run. -/
  interrupted : ∀ cs plan i op err, w.Holds r cs →
    Plan.reconcile s.engine r.qualifiedName cs incoming policy = .ok plan →
    plan.operations[i]? = some op →
    (∀ op' ∈ plan.operations.take i, w.statementErrors.find? op'.column.name = none) →
    w.statementErrors.find? op.column.name = some err →
    ∃ w', s.reconcile w r incoming policy = (w', .error (.statement r.qualifiedName i op err))
      ∧ Warehouse.Altered r (Operation.applyAll s.engine cs (plan.operations.take i))
          (plan.operations.take i) w w'

theorem reconcile_executed {cs incoming : List Column} {policy : Policy} {plan : Plan}
    (hengine : s.engine = w.engine) (h : w.Holds r cs)
    (hplan : Plan.reconcile s.engine r.qualifiedName cs incoming policy = .ok plan)
    (hallows : ∀ op ∈ plan.operations, w.Allows op) :
    ∃ w', s.reconcile w r incoming policy = (w', .ok plan)
      ∧ Warehouse.Altered r plan.target plan.operations w w' := by
  obtain ⟨w', hw', halt⟩ := Warehouse.runFrom_of_allows 0 h.2.1 hallows
  refine ⟨w', ?_, ?_⟩
  · rw [reconcile_of_holds h hplan, Warehouse.run, hw']
    rfl
  · rw [Plan.target_of_reconcile hplan, hengine]
    exact halt

theorem reconcile_interrupted {cs incoming : List Column} {policy : Policy} {plan : Plan}
    {i : Nat} {op : Operation} {err : FetchError}
    (hengine : s.engine = w.engine) (h : w.Holds r cs)
    (hplan : Plan.reconcile s.engine r.qualifiedName cs incoming policy = .ok plan)
    (hop : plan.operations[i]? = some op)
    (hallows : ∀ op' ∈ plan.operations.take i, w.Allows op')
    (herr : w.statementErrors.find? op.column.name = some err) :
    ∃ w', s.reconcile w r incoming policy = (w', .error (.statement r.qualifiedName i op err))
      ∧ Warehouse.Altered r (Operation.applyAll s.engine cs (plan.operations.take i))
          (plan.operations.take i) w w' := by
  obtain ⟨hi, hget⟩ := List.getElem?_eq_some_iff.mp hop
  have hsplit : plan.operations
      = plan.operations.take i ++ op :: plan.operations.drop (i + 1) := by
    rw [← hget, List.getElem_cons_drop, List.take_append_drop]
  have hlen : 0 + (plan.operations.take i).length = i := by
    rw [List.length_take]
    omega
  obtain ⟨w', hw', halt⟩ :=
    Warehouse.runFrom_of_statementError 0 h.2.1 hallows herr (plan.operations.drop (i + 1))
  rw [hlen, ← hsplit] at hw'
  refine ⟨w', ?_, ?_⟩
  · rw [reconcile_of_holds h hplan, Warehouse.run, hw']
    rfl
  · rw [hengine]
    exact halt

/-- **Refinement.** A session whose engine is that of the warehouse carries out the plan for the
columns that the warehouse has stored. -/
theorem reconcile_refines (hengine : s.engine = w.engine) (r : Relation) (incoming : List Column)
    (policy : Policy) : Refines s w r incoming policy where
  unreadable err herr hfound := by
    rw [reconcile, columnsIn_of_error herr hfound, reconcileFetched]
  absent h := by
    refine ⟨Plan.forNewRelation r.qualifiedName incoming policy, ?_, rfl, rfl⟩
    rw [reconcile, columnsIn_of_lacks h]
    rfl
  refused cs o h hplan := by
    rw [reconcile, columnsIn_of_stored h.1 h.2.1, reconcileFetched]
    simp only [planFor_of_ne_nil h.2.2, hplan]
  executed cs plan h hplan hallows := reconcile_executed hengine h hplan hallows
  interrupted cs plan i op err h hplan hop hallows herr :=
    reconcile_interrupted hengine h hplan hop hallows herr

end Session

/-! ### A reconciliation that is interrupted -/

/-- A session without catalog integrations. -/
def Session.plain : Session := ⟨Dialect.ansi.engine, .all, .empty Dialect.ansi.engine.casing⟩

/-- A table that is found by its identifier alone. -/
def Relation.orders : Relation := { database := none, schema := none, identifier := "orders" }

/-- A warehouse with a table of one column, and without leave to name another column `b`. -/
def Warehouse.guarded : Warehouse :=
  { Warehouse.addColumns {} .orders [⟨"id", "INT64", 1⟩] with
    statementErrors := Dictionary.empty.insert "b" ⟨.permissionDenied, "read only"⟩ }

/-- The column `a` is added before the run stops at the column `b`. -/
theorem Session.reconcile_refines_guarded :
    Session.plain.engine = Warehouse.guarded.engine ∧ ∃ w',
      Session.plain.reconcile .guarded .orders
          [⟨"id", "INT64", 1⟩, ⟨"a", "STRING", 2⟩, ⟨"b", "STRING", 3⟩] .appendNewColumns
        = (w', .error (.statement "orders" 1 (.add ⟨"b", "STRING", 3⟩)
            ⟨.permissionDenied, "read only"⟩))
      ∧ Warehouse.Altered .orders [⟨"id", "INT64", 1⟩, ⟨"a", "STRING", 2⟩]
          [.add ⟨"a", "STRING", 2⟩] .guarded w' := by
  have hholds : Warehouse.guarded.Holds .orders [⟨"id", "INT64", 1⟩] :=
    ⟨by decide, by decide, List.cons_ne_nil _ _⟩
  have hrefines := Session.reconcile_refines (s := .plain) (w := .guarded) rfl .orders
    [⟨"id", "INT64", 1⟩, ⟨"a", "STRING", 2⟩, ⟨"b", "STRING", 3⟩] .appendNewColumns
  exact ⟨rfl, hrefines.interrupted [⟨"id", "INT64", 1⟩] _ 1 (.add ⟨"b", "STRING", 3⟩)
    ⟨.permissionDenied, "read only"⟩ hholds rfl rfl (by decide) rfl⟩

end SchemaDrift
