import SchemaDrift.Proofs.Plan.Resumption
import SchemaDrift.Proofs.Reconciliation.Execution

/-!
# Recovery from an interruption

A reconciliation that is interrupted is simply made again. It reads the columns that the
interruption has left and makes a plan for them, which knows nothing of the first plan.

* `Plan.reconcile_resumes`: the second plan leads to the target of the first, whatever statement
  the run stopped at.
* `Session.rerun_reaches_target`: so the relation has these columns once the statements that were
  refused are allowed and the reconciliation is made again.

The second theorem is more than the first on a warehouse. A relation that has lost all its columns
is taken for one that is not there, and no plan is made for it at all. This needs no repair, since
then the target has no column either.
-/

namespace SchemaDrift

namespace Plan

variable {e : Engine} {relation : String} {existing incoming : List Column} {policy : Policy}
  {p : Plan}

/-- The columns of a relation after the first `k` operations of a plan. -/
def columnsAfter (e : Engine) (existing : List Column) (p : Plan) (k : Nat) : List Column :=
  Operation.applyAll e existing (p.operations.take k)

/-- A plan without operations leaves the columns as they are. -/
private theorem columnsAfter_of_operations_nil (h : p.operations = []) (k : Nat) :
    columnsAfter e existing p k = existing := by
  rw [columnsAfter, h, List.take_nil, Operation.applyAll_nil]

/-- Planning again leads to the same target. -/
theorem exists_reconcile_columnsAfter (h : reconcile e relation existing incoming policy = .ok p)
    (k : Nat) :
    ∃ again, reconcile e relation (columnsAfter e existing p k) incoming policy = .ok again
      ∧ again.target = p.target := by
  cases policy with
  | ignore | fail =>
    rw [columnsAfter_of_operations_nil (operations_of_reconcile h)]
    exact ⟨p, h, rfl⟩
  | appendNewColumns =>
    refine ⟨_, rfl, ?_⟩
    rw [target_append rfl, target_append h, columnsAfter, operations_append h, appended_resumes]
  | syncAllColumns =>
    refine ⟨_, rfl, ?_⟩
    rw [target_sync rfl, target_sync h, columnsAfter, operations_sync h, synced_resumes]

/-- Only with an empty load is a relation without columns left behind. -/
theorem incoming_eq_nil_of_columnsAfter (h : reconcile e relation existing incoming policy = .ok p)
    (hne : existing ≠ []) {k : Nat} (hnil : columnsAfter e existing p k = []) : incoming = [] := by
  cases policy with
  | ignore | fail =>
    rw [columnsAfter_of_operations_nil (operations_of_reconcile h)] at hnil
    exact absurd hnil hne
  | appendNewColumns =>
    rw [columnsAfter, operations_append h, ← List.map_take, applyAll_take_additions,
      partlyAppended, List.append_eq_nil_iff] at hnil
    exact absurd hnil.1 hne
  | syncAllColumns =>
    rw [columnsAfter, operations_sync h] at hnil
    exact incoming_eq_nil_of_interrupted e existing incoming hne hnil

/-- **Resumption.** Take a plan and the columns that its first `k` operations lead to, which are
those that a run stopped at the next statement leaves behind. A plan for these columns can be
made, and it leads to the target of the first plan. -/
theorem reconcile_resumes (h : reconcile e relation existing incoming policy = .ok p) (k : Nat) :
    (∃ again, reconcile e relation (columnsAfter e existing p k) incoming policy = .ok again
      ∧ Operation.applyAll e (columnsAfter e existing p k) again.operations = p.target)
    ∧ ∀ (w w' : Warehouse) (r : Relation) (op : Operation) (err : FetchError), w.engine = e →
      w.columns.find? r.qualifiedName = some existing →
      w.run r p.operations = (w', .error (.statement r.qualifiedName k op err)) →
      w'.columns.find? r.qualifiedName = some (columnsAfter e existing p k) := by
  constructor
  · obtain ⟨again, hagain, htarget⟩ := exists_reconcile_columnsAfter h k
    refine ⟨again, hagain, ?_⟩
    rw [← target_of_reconcile hagain, htarget]
  · rintro w w' r op err rfl hstored hrun
    obtain ⟨i, op', err', hcause, -, halt⟩ := Warehouse.altered_of_run_error hstored hrun
    obtain ⟨-, rfl, -, -⟩ := ReconcileError.statement.inj hcause
    exact halt.stored

/-- A table in which two columns have the same key. -/
def respelled : List Column :=
  [⟨"id", "INT64", 1⟩, ⟨"note", "STRING", 2⟩, ⟨"NOTE", "STRING", 3⟩, ⟨"total", "FLOAT64", 4⟩]

/-- A warehouse with such a table, and without leave to name the second of these columns. -/
def respelledWarehouse : Warehouse :=
  { Warehouse.addColumns {} .orders respelled with
    statementErrors := Dictionary.empty.insert "NOTE" ⟨.permissionDenied, "read only"⟩ }

/-- The plan that makes the table one of the columns `id` and `email`. -/
def respelledPlan : Plan :=
  running Dialect.ansi.engine "orders" .syncAllColumns respelled
    (Drift.between Dialect.ansi.engine respelled [⟨"id", "INT64", 1⟩, ⟨"email", "STRING", 2⟩])
    [.add ⟨"email", "STRING", 2⟩, .drop ⟨"note", "STRING", 2⟩, .drop ⟨"NOTE", "STRING", 3⟩,
      .drop ⟨"total", "FLOAT64", 4⟩]

/-- The first drop has taken both columns when the run stops at the second. What is left to drop is
`total`, which has moved up. -/
theorem reconcile_resumes_respelled :
    let load : List Column := [⟨"id", "INT64", 1⟩, ⟨"email", "STRING", 2⟩]
    let left : List Column := [⟨"id", "INT64", 1⟩, ⟨"total", "FLOAT64", 2⟩, ⟨"email", "STRING", 3⟩]
    reconcile Dialect.ansi.engine "orders" respelled load .syncAllColumns = .ok respelledPlan
      ∧ respelledPlan.target = load
      ∧ columnsAfter Dialect.ansi.engine respelled respelledPlan 2 = left
      ∧ (respelledWarehouse.run .orders respelledPlan.operations).1.columns.find? "orders"
        = some left
      ∧ ∃ again, reconcile Dialect.ansi.engine "orders" left load .syncAllColumns = .ok again
        ∧ again.operations = [.drop ⟨"total", "FLOAT64", 2⟩]
        ∧ Operation.applyAll Dialect.ansi.engine left again.operations = load := by
  intro load left
  have hplan : reconcile Dialect.ansi.engine "orders" respelled load .syncAllColumns
      = .ok respelledPlan := rfl
  have htarget : respelledPlan.target = load := by decide +kernel
  have hleft : columnsAfter Dialect.ansi.engine respelled respelledPlan 2 = left := by
    decide +kernel
  have hstopped : (respelledWarehouse.run .orders respelledPlan.operations).2
      = .error (.statement "orders" 2 (.drop ⟨"NOTE", "STRING", 3⟩)
          ⟨.permissionDenied, "read only"⟩) := rfl
  obtain ⟨⟨again, hagain, hend⟩, hrun⟩ := reconcile_resumes hplan 2
  have hstored := hrun respelledWarehouse _ .orders _ _ rfl rfl (Prod.ext rfl hstopped)
  rw [hleft] at hagain hend hstored
  refine ⟨hplan, htarget, hleft, hstored, again, hagain, ?_, hend.trans htarget⟩
  rw [operations_sync hagain]
  decide +kernel

end Plan

/-! ### Made again on a warehouse -/

namespace Session

variable {s : Session} {w w' : Warehouse} {r : Relation} {existing incoming : List Column}
  {policy : Policy} {p : Plan} {cause : ReconcileError}

/-- A reconciliation for which every statement is allowed gives the relation its target, also
when it finds no columns and makes no plan, provided that the load has none either. -/
private theorem stored_target_of_allows (hengine : s.engine = w.engine)
    (herr : w.errors.find? r.qualifiedName = none)
    (hstored : w.columns.find? r.qualifiedName = some existing)
    (hallows : ∀ op, w.Allows op)
    (hplan : Plan.reconcile s.engine r.qualifiedName existing incoming policy = .ok p)
    (hnil : existing = [] → incoming = []) :
    ∃ w' again, s.reconcile w r incoming policy = (w', .ok again)
      ∧ w'.columns.find? r.qualifiedName = some p.target := by
  by_cases hne : existing = []
  · subst hne
    obtain rfl := hnil rfl
    have htarget : p.target = [] := by
      rw [Plan.target_of_reconcile hplan, Plan.operations_of_reconcile hplan]
      split <;> split <;> rfl
    refine ⟨w, Plan.forNewRelation r.qualifiedName [] policy, ?_, ?_⟩
    · rw [reconcile, columnsIn_of_lacks (.inr ⟨herr, .inr hstored⟩)]
      rfl
    · rw [hstored, htarget]
  · obtain ⟨w', hw', halt⟩ :=
      reconcile_executed hengine ⟨herr, hstored, hne⟩ hplan fun op _ => hallows op
    exact ⟨w', p, hw', halt.stored⟩

/-- **Recovery.** A reconciliation that has stopped at a statement, made again when every
statement is allowed, leaves the columns that it would have left without the interruption. -/
theorem rerun_reaches_target (hengine : s.engine = w.engine) (hholds : w.Holds r existing)
    (hplan : Plan.reconcile s.engine r.qualifiedName existing incoming policy = .ok p)
    (hstopped : s.reconcile w r incoming policy = (w', .error cause)) :
    ∃ w'' again, s.reconcile { w' with statementErrors := .empty } r incoming policy
        = (w'', .ok again)
      ∧ w''.columns.find? r.qualifiedName = some p.target := by
  have hrun : w.run r p.operations = (w', .error cause) := by
    rw [reconcile_of_holds hholds hplan] at hstopped
    match hran : w.run r p.operations with
    | (w₁, .ok n) =>
      rw [hran] at hstopped
      cases congrArg Prod.snd hstopped
    | (w₁, .error cause') =>
      rw [hran] at hstopped
      obtain ⟨rfl, hcause⟩ := Prod.mk.inj hstopped
      obtain rfl := Except.error.inj hcause
      rfl
  obtain ⟨k, op, err, -, -, halt⟩ := Warehouse.altered_of_run_error hholds.2.1 hrun
  rw [← hengine] at halt
  obtain ⟨again, hagain, htarget⟩ := Plan.exists_reconcile_columnsAfter hplan k
  -- it is the second plan that is carried out, for the columns that the first run has left
  rw [← htarget]
  refine stored_target_of_allows ?_ ?_ halt.stored (fun _ => rfl) hagain
    (Plan.incoming_eq_nil_of_columnsAfter hplan hholds.2.2)
  · rw [hengine, ← halt.engine_eq]
  · rw [← hholds.1, ← halt.errors_eq]

end Session

end SchemaDrift
