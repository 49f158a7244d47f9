import SchemaDrift.Diagnostic
import SchemaDrift.Drift
import SchemaDrift.Operation
import SchemaDrift.Policy

/-!
# Plans

A plan says what to do about the drift of one relation under a policy, what columns the
relation will then have, and whether these agree with the load. Planning only looks at columns;
it runs nothing.

The columns of the load are not needed to tell whether the target agrees with it: the columns
of the relation that are not removed, together with those added, have the same keys as the load
(`Plan.wanted`).
-/

namespace SchemaDrift

/-- How a relation stands once its plan has run. -/
inductive PlanState where
  /-- It has exactly the column names of the load. -/
  | converged
  /-- The policy leaves some drift in place. -/
  | driftIgnored
deriving DecidableEq, Repr

/-- A **plan** for one relation. -/
structure Plan where
  relation : String
  policy : Policy
  drift : Drift
  /-- What to run, in order. -/
  operations : List Operation
  /-- The columns of the relation afterwards. -/
  target : List Column
  state : PlanState
deriving DecidableEq, Repr

/-- The refusal of drift: which columns of the load the relation lacks, and which of its own
the load lacks. -/
structure OutOfSync where
  relation : String
  added : List String
  removed : List String
deriving DecidableEq, Repr

namespace OutOfSync

/-- What is reported about a refusal. -/
def message (o : OutOfSync) : String :=
  let added := ", ".intercalate o.added
  let removed := ", ".intercalate o.removed
  "The source and target schemas on this incremental model are out of sync! Relation: "
    ++ o.relation ++ ". Source columns not in target: [" ++ added
    ++ "]. Target columns not in source: [" ++ removed ++ "]. Set on_schema_change to "
    ++ "append_new_columns or sync_all_columns, or rebuild the model with a full refresh."

/-- A refusal as a diagnostic. -/
def diagnostic (o : OutOfSync) : Diagnostic where
  code := .schemaOutOfSync
  severity := .error
  message := o.message
  relation := some o.relation
  columns := o.added ++ o.removed

end OutOfSync

namespace Plan

/-- The operations that a policy answers a drift with; `none` when it refuses the drift. -/
def operationsFor? (policy : Policy) (drift : Drift) : Option (List Operation) :=
  match policy with
  | .ignore => some []
  | .appendNewColumns => some (drift.added.map .add)
  | .syncAllColumns => some (drift.added.map .add ++ drift.removed.map .drop)
  | .fail => if drift.isEmpty then some [] else none

/-- Columns with the keys of the load, put together from the relation and the drift. -/
def wanted (e : Engine) (existing : List Column) (drift : Drift) : List Column :=
  existing.filter (fun c => c.key e ∉ drift.removed.map (·.key e)) ++ drift.added

/-- The plan that runs given operations. -/
def running (e : Engine) (relation : String) (policy : Policy) (existing : List Column)
    (drift : Drift) (operations : List Operation) : Plan :=
  let target := Operation.applyAll e existing operations
  { relation, policy, drift, operations, target
    state := if (Drift.between e target (wanted e existing drift)).isEmpty then .converged
      else .driftIgnored }

/-- **Plan** what to do about the drift between the columns of a relation and those of a
load. -/
def reconcile (e : Engine) (relation : String) (existing incoming : List Column)
    (policy : Policy) : Except OutOfSync Plan :=
  let drift := Drift.between e existing incoming
  match operationsFor? policy drift with
  | some operations => .ok (running e relation policy existing drift operations)
  | none => .error ⟨relation, drift.addedNames, drift.removedNames⟩

/-- The plan for a relation that does not exist yet: the load creates it. -/
def forNewRelation (relation : String) (incoming : List Column) (policy : Policy) : Plan where
  relation
  policy
  drift := .none
  operations := []
  target := incoming
  state := .converged

/-- Whether a plan runs nothing. -/
def isNoop (p : Plan) : Bool := p.operations.isEmpty

/-! ### Diagnostics -/

/-- Whether a policy adds the columns that a relation lacks. -/
def addsColumns : Policy → Bool
  | .appendNewColumns | .syncAllColumns => true
  | .ignore | .fail => false

/-- Whether a policy drops the columns that a load lacks. -/
def dropsColumns : Policy → Bool
  | .syncAllColumns => true
  | .ignore | .appendNewColumns | .fail => false

/-- The finding about a column that the relation lacks. -/
def addedDiagnostic (p : Plan) (c : Column) : Diagnostic where
  code := .driftColumnAdded
  severity := if addsColumns p.policy then .info else .warn
  message :=
    let outcome := if addsColumns p.policy then "will be added" else "is ignored"
    s!"New column '{c.name}' ({c.dataType}) {outcome}"
  relation := some p.relation
  columns := [c.name]

/-- The finding about a column that the load lacks. -/
def removedDiagnostic (p : Plan) (c : Column) : Diagnostic where
  code := .driftColumnRemoved
  severity := if dropsColumns p.policy then .info else .warn
  message :=
    let outcome := if dropsColumns p.policy then "will be dropped" else "is kept"
    s!"Column '{c.name}' is no longer produced and {outcome}"
  relation := some p.relation
  columns := [c.name]

/-- The finding about a column that changed its type. -/
def retypedDiagnostic (p : Plan) (r : Retyped) : Diagnostic where
  code := .driftTypeChange
  severity := .warn
  message := s!"Column '{r.name}' changed type; types are not reconciled"
  relation := some p.relation
  expected := some r.existingType
  actual := some r.incomingType
  columns := [r.name]

/-- The findings of a plan: one for each column added, removed and retyped, in that order. -/
def diagnostics (p : Plan) : List Diagnostic :=
  p.drift.added.map p.addedDiagnostic ++ p.drift.removed.map p.removedDiagnostic
    ++ p.drift.retyped.map p.retypedDiagnostic

/-! ### As data -/

/-- The name of a state. -/
def stateText : PlanState → String
  | .converged => "converged"
  | .driftIgnored => "drift_ignored"

/-- A plan as data. -/
def toData (p : Plan) : Data :=
  .record [("relation", .text p.relation), ("policy", p.policy.toData),
    ("diff", p.drift.toData), ("operations", .list (p.operations.map Operation.toData)),
    ("target_columns", Column.listToData p.target), ("state", .text (stateText p.state))]

/-- Read a plan. -/
def ofData? (form : Form) (d : Data) : Option Plan := do
  let f ← d.fields? form
    ["relation", "policy", "diff", "operations", "target_columns", "state"]
  let relation ← f.required "relation" Data.text?
  let policy ← f.required "policy" (Policy.ofData? form)
  let drift ← f.required "diff" (Drift.ofData? form)
  let operations ← f.required "operations" (Data.list? (Operation.ofData? form))
  let target ← f.required "target_columns" (Column.listOfData? form)
  let state ← f.required "state"
    (Data.choice? form [("converged", PlanState.converged), ("drift_ignored", .driftIgnored)])
  return { relation, policy, drift, operations, target, state }

end Plan

end SchemaDrift
