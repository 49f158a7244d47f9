import SchemaDrift.CommandLine.Invocation
import SchemaDrift.CommandLine.Layout
import SchemaDrift.CommandLine.Outcome
import SchemaDrift.Config
import SchemaDrift.Json.Printer
import SchemaDrift.Json.Reader
import SchemaDrift.Plan
import SchemaDrift.Report

/-!
# The command `plan`

Two lists of columns are read from files, the drift between them is planned for under a policy,
and what comes of it is printed and saved as a report. A refusal of the drift is a finding like
any other. The severities of findings are those that the project gives to them, and the run
fails exactly when one of them is then an error.
-/

namespace SchemaDrift.CommandLine

/-! ### Columns in files -/

/-- Why columns cannot be had from a file. -/
inductive ColumnsError where
  | unreadable (path : String) (cause : FileError)
  /-- The text is no JSON, or no list of columns. -/
  | malformed (path : String)
deriving DecidableEq, Repr

/-- What is reported about columns that cannot be had. -/
def ColumnsError.message : ColumnsError → String
  | .unreadable path cause => "Failed to read " ++ path ++ ": " ++ cause.message
  | .malformed path => path ++ " is not a JSON array of columns: no such array"

/-- The columns in a file. -/
def loadColumns (s : Surroundings) (path : String) : Except ColumnsError (List Column) :=
  match s.read path with
  | .error e => .error (.unreadable path e)
  | .ok text =>
    match (Json.parse text).bind (Column.listOfData? .json) with
    | some cs => .ok cs
    | none => .error (.malformed path)

/-! ### What comes of planning -/

/-- The operations that are planned; none when the drift is refused. -/
def plannedOperations : Except OutOfSync Plan → List Operation
  | .ok p => p.operations
  | .error _ => []

/-- The findings of planning: those of the plan, or the refusal. -/
def planningFindings : Except OutOfSync Plan → List Diagnostic
  | .ok p => p.diagnostics
  | .error o => [o.diagnostic]

/-- The **report** on planning for one relation. -/
def planningReport (c : Config) (timestamp : String) (result : Except OutOfSync Plan) : Report :=
  ((planningFindings result).map c.severity.applyTo).foldl Report.add
    ((Report.empty timestamp).recordModel (plannedOperations result).length)

/-! ### Printing -/

/-- An operation for a reader. -/
def operationLine (e : Engine) (op : Operation) : String :=
  match op with
  | .add c => "  + add column " ++ op.quotedName e ++ " " ++ c.dataType
  | .drop _ => "  - drop column " ++ op.quotedName e

/-- The result of planning for a reader. -/
def planningLines (e : Engine) : Except OutOfSync Plan → List String
  | .ok p =>
    if p.isNoop then ["✓ No schema changes to apply"] else p.operations.map (operationLine e)
  | .error o => ["✗ " ++ o.message]

/-- A report for a reader. -/
def summaryLines (r : Report) : List String :=
  ["", "Summary:", "  Operations planned: " ++ toString r.summary.operationsPlanned,
    "  Errors:   " ++ toString r.summary.errors, "  Warnings: " ++ toString r.summary.warnings,
    "  Info:     " ++ toString r.summary.info, ""]
    ++ r.diagnostics.flatMap diagnosticLines ++ ["", rule]

/-- The end of a run whose report is saved. -/
def reported (verbose : Bool) (path : String) (r : Report) : Transcript where
  output := summaryLines r
  errors := if verbose then ["Report saved to: " ++ path] else []
  status := if r.hasErrors then .failure else .success

/-! ### The command -/

/-- Plan for columns that are loaded. -/
def planFor (s : Surroundings) (c : Config) (verbose : Bool) (q : PlanRequest)
    (existing incoming : List Column) : Outcome :=
  let result := Plan.reconcile c.engine q.relation existing incoming q.policy
  let report := planningReport c s.now result
  let lines := heading "Schema Change Plan"
    ++ ["Relation: " ++ q.relation, "Policy: " ++ q.policy.text, ""]
    ++ planningLines c.engine result
  .save q.output (Json.pretty report.toData) fun
    | .ok () => (reported verbose q.output report).headedBy lines
    | .error e => (Transcript.failure e.message).headedBy lines

/-- What a planning run says it compares. -/
def comparisonNotice (q : PlanRequest) (existing incoming : List Column) : String :=
  "Comparing " ++ toString existing.length ++ " existing and " ++ toString incoming.length
    ++ " incoming columns under " ++ q.policy.text

/-- **Plan** as asked. -/
def runPlan (s : Surroundings) (c : Config) (verbose : Bool) (q : PlanRequest) : Outcome :=
  let columns : Except ColumnsError (List Column × List Column) := do
    let existing ← loadColumns s q.existing
    let incoming ← loadColumns s q.incoming
    return (existing, incoming)
  match columns with
  | .error e => .done (.failure e.message)
  | .ok (existing, incoming) =>
    (planFor s c verbose q existing incoming).announcedBy
      (if verbose then [comparisonNotice q existing incoming] else [])

end SchemaDrift.CommandLine
