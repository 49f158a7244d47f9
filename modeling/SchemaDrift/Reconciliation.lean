import SchemaDrift.Plan
import SchemaDrift.Session

/-!
# Reconciling a relation with its next load

To reconcile a relation is to read its columns, to plan what to do about their drift from those
of the next load, and to run the plan one operation after another. The first operation that
fails ends the run; the ones before it have been run, the ones after it have not.

A relation without columns is not there yet: the load creates it.
-/

namespace SchemaDrift

/-- Why a reconciliation fails. -/
inductive ReconcileError where
  /-- The policy refuses the drift. -/
  | drift (cause : OutOfSync)
  /-- The columns of the relation cannot be read. -/
  | fetch (relation : String) (cause : FetchError)
  /-- The operation with this number, counted from zero, cannot be run. -/
  | statement (relation : String) (index : Nat) (operation : Operation) (cause : FetchError)
  /-- The model cannot be placed. -/
  | catalog (cause : CatalogError)
  /-- The settings of the model are wrong. -/
  | configuration (cause : ConfigurationError)

/-- What is reported about a failure. -/
def ReconcileError.message : ReconcileError → String
  | .drift cause => cause.message
  | .fetch relation cause => "Failed to read columns of " ++ relation ++ ": " ++ cause.message
  | .statement relation index operation cause =>
    let step := operation.display
    s!"Operation {index} ({step}) on {relation} failed: " ++ cause.message
  | .catalog cause => cause.message
  | .configuration cause => cause.message

namespace Warehouse

/-- Run operations in order until one fails, counting from `index`. -/
def runFrom (r : Relation) (index : Nat) (w : Warehouse) :
    List Operation → Warehouse × Except ReconcileError Unit
  | [] => (w, .ok ())
  | op :: ops =>
    match w.execute r op with
    | .ok w => runFrom r (index + 1) w ops
    | .error e => (w, .error (.statement r.qualifiedName index op e))

/-- **Run** operations on a relation in order until one fails; the number of operations run. -/
def run (w : Warehouse) (r : Relation) (ops : List Operation) :
    Warehouse × Except ReconcileError Nat :=
  let (w, result) := runFrom r 0 w ops
  (w, result.map fun _ => ops.length)

end Warehouse

namespace Session

/-- The plan for a relation whose columns have been read. -/
def planFor (s : Session) (r : Relation) (existing incoming : List Column) (policy : Policy) :
    Except OutOfSync Plan :=
  if existing.isEmpty then .ok (Plan.forNewRelation r.qualifiedName incoming policy)
  else Plan.reconcile s.engine r.qualifiedName existing incoming policy

/-- Plan with columns that were read, then run the plan. -/
def reconcileFetched (s : Session) (w : Warehouse) (r : Relation) (incoming : List Column)
    (policy : Policy) (fetched : Except FetchError (List Column)) :
    Warehouse × Except ReconcileError Plan :=
  match fetched with
  | .error e => (w, .error (.fetch r.qualifiedName e))
  | .ok existing =>
    match s.planFor r existing incoming policy with
    | .error e => (w, .error (.drift e))
    | .ok plan =>
      let (w, result) := w.run r plan.operations
      (w, result.map fun _ => plan)

/-- **Reconcile** a relation with the columns of its next load. -/
def reconcile (s : Session) (w : Warehouse) (r : Relation) (incoming : List Column)
    (policy : Policy) : Warehouse × Except ReconcileError Plan :=
  s.reconcileFetched w r incoming policy (columnsIn w r)

/-- The relation of a model and its policy. -/
def targetOf (s : Session) (m : Model) : Except ReconcileError (Relation × Policy) := do
  let policy ← m.policy.mapError .configuration
  let relation ← (s.relationOf m).mapError .catalog
  return (relation, policy)

/-- Reconcile the relation of a model under the policy of the model. -/
def reconcileModel (s : Session) (w : Warehouse) (m : Model) (incoming : List Column) :
    Warehouse × Except ReconcileError Plan :=
  match s.targetOf m with
  | .error e => (w, .error e)
  | .ok (relation, policy) => s.reconcile w relation incoming policy

end Session

end SchemaDrift
