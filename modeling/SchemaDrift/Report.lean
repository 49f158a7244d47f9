import SchemaDrift.Diagnostic

/-!
# Reports

A report collects diagnostics and counts them, together with the models that were looked at
and the operations that were planned for them. Its form is versioned.
-/

namespace SchemaDrift

/-- The version of the form of a report. -/
structure ReportVersion where
  major : Nat
  minor : Nat
deriving DecidableEq, Repr

/-- The present version. -/
def ReportVersion.current : ReportVersion := ⟨1, 0⟩

/-- A version for a reader. -/
def ReportVersion.display (v : ReportVersion) : String := s!"{v.major}.{v.minor}"

/-- The counters of a report. -/
structure ReportSummary where
  total : Nat := 0
  errors : Nat := 0
  warnings : Nat := 0
  info : Nat := 0
  modelsReconciled : Nat := 0
  operationsPlanned : Nat := 0
deriving DecidableEq, Repr

/-- A **report**. -/
structure Report where
  version : ReportVersion
  timestamp : String
  summary : ReportSummary
  diagnostics : List Diagnostic
  metadata : Option Value

namespace Report

/-- A report without findings. -/
def empty (timestamp : String) : Report := ⟨.current, timestamp, {}, [], none⟩

/-- The counters after one more finding of a severity. -/
def countSeverity (s : ReportSummary) : Severity → ReportSummary
  | .error => { s with total := s.total + 1, errors := s.errors + 1 }
  | .warn => { s with total := s.total + 1, warnings := s.warnings + 1 }
  | .info => { s with total := s.total + 1, info := s.info + 1 }

/-- Add a finding. -/
def add (r : Report) (d : Diagnostic) : Report :=
  { r with
    summary := countSeverity r.summary d.severity
    diagnostics := r.diagnostics ++ [d] }

/-- A report of given findings. -/
def ofDiagnostics (timestamp : String) (ds : List Diagnostic) : Report :=
  ds.foldl add (empty timestamp)

/-- Count one model and the operations planned for it. -/
def recordModel (r : Report) (operations : Nat) : Report :=
  { r with
    summary := { r.summary with
      modelsReconciled := r.summary.modelsReconciled + 1
      operationsPlanned := r.summary.operationsPlanned + operations } }

/-- Whether a finding is an error. -/
def hasErrors (r : Report) : Bool := 0 < r.summary.errors

end Report

/-! ### As data -/

/-- A version as data. -/
def ReportVersion.toData (v : ReportVersion) : Data :=
  .record [("major", .ofNat v.major), ("minor", .ofNat v.minor)]

/-- Read a version. -/
def ReportVersion.ofData? (form : Form) (d : Data) : Option ReportVersion := do
  let f ← d.fields? form ["major", "minor"]
  let major ← f.required "major" (Data.natBelow? (Nat.pow 2 32))
  let minor ← f.required "minor" (Data.natBelow? (Nat.pow 2 32))
  return ⟨major, minor⟩

/-- Counters as data. -/
def ReportSummary.toData (s : ReportSummary) : Data :=
  .record [("total", .ofNat s.total), ("errors", .ofNat s.errors),
    ("warnings", .ofNat s.warnings), ("info", .ofNat s.info),
    ("models_reconciled", .ofNat s.modelsReconciled),
    ("operations_planned", .ofNat s.operationsPlanned)]

/-- Read counters. -/
def ReportSummary.ofData? (form : Form) (d : Data) : Option ReportSummary := do
  let f ← d.fields? form
    ["total", "errors", "warnings", "info", "models_reconciled", "operations_planned"]
  let total ← f.required "total" Data.count?
  let errors ← f.required "errors" Data.count?
  let warnings ← f.required "warnings" Data.count?
  let info ← f.required "info" Data.count?
  let modelsReconciled ← f.required "models_reconciled" Data.count?
  let operationsPlanned ← f.required "operations_planned" Data.count?
  return { total, errors, warnings, info, modelsReconciled, operationsPlanned }

namespace Report

/-- A report as data; absent metadata is left out. -/
def toData (r : Report) : Data :=
  .record ([("version", r.version.toData), ("timestamp", .text r.timestamp),
      ("summary", r.summary.toData), ("diagnostics", .list (r.diagnostics.map Diagnostic.toData))]
    ++ Data.optionalField "metadata" (r.metadata.map (·.data)))

/-- Read a report. -/
def ofData? (form : Form) (d : Data) : Option Report := do
  let f ← d.fields? form ["version", "timestamp", "summary", "diagnostics", "metadata"]
  let version ← f.required "version" (ReportVersion.ofData? form)
  let timestamp ← f.required "timestamp" Data.text?
  let summary ← f.required "summary" (ReportSummary.ofData? form)
  let diagnostics ← f.required "diagnostics" (Data.list? (Diagnostic.ofData? form))
  let metadata ← f.optional "metadata" Value.of?
  return { version, timestamp, summary, diagnostics, metadata }

end Report

end SchemaDrift
