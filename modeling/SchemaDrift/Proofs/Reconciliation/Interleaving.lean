import SchemaDrift.Proofs.Reconciliation.Execution

/-!
# Interleaved reconciliations

Several reconciliations of one relation with the same load, each under a policy of its own, may
be at work on a warehouse together. Each of them takes **steps**: one reads the columns and makes
the plan, and every operation of the plan is one more. A **schedule** lists whose turn it is; any
order of steps is a schedule, and a turn of a reconciliation that is over changes nothing.

A plan is made for the columns as they were read. Nothing is read again when its operations are
run, so these may find columns that other reconciliations have added or dropped meanwhile.

* `after_replicate`: a reconciliation that has the warehouse to itself does in steps what
  `Session.reconcile` does at once.
-/

namespace SchemaDrift

/-- How far a reconciliation has come. -/
inductive Progress where
  /-- The columns are still to be read. -/
  | waiting
  /-- A plan was made. So many of its operations have been run, and these are still to be run. -/
  | running (plan : Plan) (ran : Nat) (rest : List Operation)
  /-- It has failed. -/
  | failed (cause : ReconcileError)

namespace Progress

/-- What has come of a reconciliation that is over. -/
def result? : Progress → Option (Except ReconcileError Plan)
  | .waiting => none
  | .running plan _ [] => some (.ok plan)
  | .running _ _ (_ :: _) => none
  | .failed cause => some (.error cause)

variable (s : Session) (r : Relation) (incoming : List Column) (policy : Policy)

/-- How a reconciliation goes on when its columns have been read. -/
def ofFetched : Except FetchError (List Column) → Progress
  | .error e => .failed (.fetch r.qualifiedName e)
  | .ok existing =>
    match s.planFor r existing incoming policy with
    | .error e => .failed (.drift e)
    | .ok plan => .running plan 0 plan.operations

/-- One **step** of a reconciliation: read the columns, or run an operation. -/
def step (w : Warehouse) : Progress → Warehouse × Progress
  | .waiting => (w, ofFetched s r incoming policy (Session.columnsIn w r))
  | .running plan ran [] => (w, .running plan ran [])
  | .running plan ran (op :: rest) =>
    match w.execute r op with
    | .ok w' => (w', .running plan (ran + 1) rest)
    | .error e => (w, .failed (.statement r.qualifiedName ran op e))
  | .failed cause => (w, .failed cause)

/-- A reconciliation that is over takes no more steps. -/
theorem step_of_result? {w : Warehouse} {p : Progress} {result : Except ReconcileError Plan}
    (h : p.result? = some result) : step s r incoming policy w p = (w, p) := by
  cases p with
  | waiting => cases h
  | running plan ran rest =>
    cases rest with
    | nil => rfl
    | cons op rest => cases h
  | failed cause => rfl

end Progress

/-! ### Several reconciliations -/

/-- One of several reconciliations. -/
structure Participant where
  policy : Policy
  progress : Progress

/-- Several reconciliations and the **warehouse** that they share. -/
structure Gathering where
  warehouse : Warehouse
  participants : List Participant

namespace Gathering

/-- Reconciliations under given policies, none of which has begun. -/
def start (w : Warehouse) (policies : List Policy) : Gathering :=
  ⟨w, policies.map fun policy => ⟨policy, .waiting⟩⟩

/-- Every reconciliation is over. -/
def IsOver (g : Gathering) : Prop := ∀ p ∈ g.participants, p.progress.result?.isSome = true

variable (s : Session) (r : Relation) (incoming : List Column)

/-- The turn of one reconciliation. Nothing happens when there is none of this number. -/
def turn (g : Gathering) (i : Nat) : Gathering :=
  match g.participants[i]? with
  | none => g
  | some p =>
    let next := p.progress.step s r incoming p.policy g.warehouse
    ⟨next.1, g.participants.set i ⟨p.policy, next.2⟩⟩

/-- What a **schedule** of turns leads to. -/
def after (g : Gathering) (schedule : List Nat) : Gathering := schedule.foldl (turn s r incoming) g

theorem after_cons (g : Gathering) (i : Nat) (schedule : List Nat) :
    after s r incoming g (i :: schedule) = after s r incoming (turn s r incoming g i) schedule :=
  rfl

/-! ### A reconciliation on its own -/

/-- The turn of the only reconciliation. -/
private theorem turn_singleton (w : Warehouse) (policy : Policy) (p : Progress) :
    turn s r incoming ⟨w, [⟨policy, p⟩]⟩ 0
      = ⟨(p.step s r incoming policy w).1, [⟨policy, (p.step s r incoming policy w).2⟩]⟩ := rfl

private theorem after_replicate_of_result? {w : Warehouse} {policy : Policy} {p : Progress}
    {result : Except ReconcileError Plan} (h : p.result? = some result) (n : Nat) :
    after s r incoming ⟨w, [⟨policy, p⟩]⟩ (List.replicate n 0) = ⟨w, [⟨policy, p⟩]⟩ := by
  induction n with
  | zero => rfl
  | succ n ih =>
    have hstep := Progress.step_of_result? s r incoming policy (w := w) h
    rw [List.replicate_succ, after_cons, turn_singleton, hstep, ih]

/-- As many turns as there are operations run them all, or up to the first that fails. -/
private theorem after_replicate_running (w : Warehouse) (policy : Policy) (plan : Plan) (ran : Nat)
    (rest : List Operation) :
    ∃ p, after s r incoming ⟨w, [⟨policy, .running plan ran rest⟩]⟩ (List.replicate rest.length 0)
        = ⟨(Warehouse.runFrom r ran w rest).1, [⟨policy, p⟩]⟩
      ∧ p.result? = some ((Warehouse.runFrom r ran w rest).2.map fun _ => plan) := by
  induction rest generalizing w ran with
  | nil => exact ⟨.running plan ran [], rfl, rfl⟩
  | cons op rest ih =>
    rw [List.length_cons, List.replicate_succ, after_cons, turn_singleton, Progress.step,
      Warehouse.runFrom]
    cases hop : w.execute r op with
    | ok w' => exact ih w' (ran + 1)
    | error e =>
      have hover : (Progress.failed (.statement r.qualifiedName ran op e)).result? = some _ := rfl
      exact ⟨_, after_replicate_of_result? s r incoming hover _, rfl⟩

/-- **A reconciliation that has the warehouse to itself** is over after enough turns. The
warehouse and the result are then those of `Session.reconcile`. -/
theorem after_replicate (w : Warehouse) (policy : Policy) :
    ∃ n p, after s r incoming (start w [policy]) (List.replicate n 0)
        = ⟨(s.reconcile w r incoming policy).1, [⟨policy, p⟩]⟩
      ∧ p.result? = some (s.reconcile w r incoming policy).2 := by
  have hstart : ∀ n, after s r incoming (start w [policy]) (List.replicate (n + 1) 0)
      = after s r incoming
          ⟨w, [⟨policy, .ofFetched s r incoming policy (Session.columnsIn w r)⟩]⟩
          (List.replicate n 0) := fun n => rfl
  rw [Session.reconcile]
  cases hfetched : Session.columnsIn w r with
  | error e =>
    refine ⟨1, .failed (.fetch r.qualifiedName e), ?_, rfl⟩
    rw [hstart, hfetched]
    rfl
  | ok existing =>
    rw [Session.reconcileFetched]
    cases hplan : s.planFor r existing incoming policy with
    | error o =>
      refine ⟨1, .failed (.drift o), ?_, rfl⟩
      rw [hstart, hfetched, Progress.ofFetched, hplan]
      rfl
    | ok plan =>
      obtain ⟨p, hafter, hresult⟩ :=
        after_replicate_running s r incoming w policy plan 0 plan.operations
      refine ⟨plan.operations.length + 1, p, ?_, ?_⟩
      · rw [hstart, hfetched, Progress.ofFetched, hplan]
        exact hafter
      · simp only [hresult, Warehouse.run]
        cases (Warehouse.runFrom r 0 w plan.operations).2 <;> rfl

end Gathering

end SchemaDrift
