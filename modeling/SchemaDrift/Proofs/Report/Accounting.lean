import Mathlib.Algebra.GroupWithZero.Nat
import SchemaDrift.Proofs.Report.Counters

/-!
# Reports keep account of what is done to them

A report is begun with findings, and then findings are added and models are counted in any order.
Its counters are never computed from its list: each step changes both. A report **accounts** for
findings and for numbers of operations when its list is the findings, every counter of findings is
their number, and the other two counters are the number and the sum of the numbers of operations.

One step keeps account of what it does (`AccountsFor.after`), so a run does (`AccountsFor.run`),
whatever order its steps come in. `counters_follow_steps` says it of every state that a run
passes. There the counters of findings add up, and a report has errors exactly when one is in its
list (`AccountsFor.total_eq`, `AccountsFor.hasErrors_iff`).
-/

namespace SchemaDrift

/-! ### Steps -/

/-- A **step** on a report. -/
inductive ReportStep where
  /-- A finding is added. -/
  | finding (d : Diagnostic)
  /-- A model is counted, with the operations planned for it. -/
  | model (operations : Nat)

namespace ReportStep

/-- The finding that a step adds. -/
def finding? : ReportStep → Option Diagnostic
  | .finding d => some d
  | .model _ => none

/-- The number of operations of the model that a step counts. -/
def operations? : ReportStep → Option Nat
  | .finding _ => none
  | .model n => some n

/-- The findings that steps add. -/
def findings (steps : List ReportStep) : List Diagnostic := steps.filterMap finding?

/-- The numbers of operations of the models that steps count. -/
def operations (steps : List ReportStep) : List Nat := steps.filterMap operations?

theorem operations_append (steps steps' : List ReportStep) :
    operations (steps ++ steps') = operations steps ++ operations steps' :=
  List.filterMap_append

end ReportStep

/-- The counter of a severity. -/
def ReportSummary.counter (s : ReportSummary) : Severity → Nat
  | .info => s.info
  | .warn => s.warnings
  | .error => s.errors

namespace Report

variable {r : Report} {ds : List Diagnostic} {ns : List Nat}

/-- A report after a step. -/
def after (r : Report) : ReportStep → Report
  | .finding d => r.add d
  | .model n => r.recordModel n

/-- A report after a run of steps. -/
def run (r : Report) (steps : List ReportStep) : Report := steps.foldl after r

/-! ### Accounts -/

/-- A report **accounts** for findings, and for the numbers of operations planned for models. -/
structure AccountsFor (r : Report) (ds : List Diagnostic) (ns : List Nat) : Prop where
  diagnostics : r.diagnostics = ds
  total : r.summary.total = r.diagnostics.length
  counter : ∀ s, r.summary.counter s = s.countIn r.diagnostics
  modelsReconciled : r.summary.modelsReconciled = ns.length
  operationsPlanned : r.summary.operationsPlanned = ns.sum

theorem counter_countSeverity (s : ReportSummary) (found severity : Severity) :
    (countSeverity s found).counter severity
      = s.counter severity + if found = severity then 1 else 0 := by
  cases found <;> cases severity <;> rfl

theorem total_countSeverity (s : ReportSummary) (found : Severity) :
    (countSeverity s found).total = s.total + 1 := by
  cases found <;> rfl

theorem accountsFor_empty (timestamp : String) : (empty timestamp).AccountsFor [] [] := by
  refine ⟨rfl, rfl, fun s => ?_, rfl, rfl⟩
  cases s <;> rfl

/-- Adding a finding counts it once, under its own severity. -/
theorem AccountsFor.add (h : r.AccountsFor ds ns) (d : Diagnostic) :
    (r.add d).AccountsFor (ds ++ [d]) ns := by
  have hmodels : (r.add d).summary.modelsReconciled = r.summary.modelsReconciled := by
    rw [Report.add]
    cases d.severity <;> rfl
  have hoperations : (r.add d).summary.operationsPlanned = r.summary.operationsPlanned := by
    rw [Report.add]
    cases d.severity <;> rfl
  refine ⟨congrArg (· ++ [d]) h.diagnostics, ?_, fun s => ?_, hmodels.trans h.modelsReconciled,
    hoperations.trans h.operationsPlanned⟩
  · calc (r.add d).summary.total
        = r.summary.total + 1 := total_countSeverity r.summary d.severity
      _ = (r.diagnostics ++ [d]).length := by
        rw [h.total, List.length_append, List.length_singleton]
  · calc (r.add d).summary.counter s
        = r.summary.counter s + if d.severity = s then 1 else 0 :=
          counter_countSeverity r.summary d.severity s
      _ = s.countIn r.diagnostics + s.countIn [d] := by
          rw [h.counter, Severity.countIn_cons, Severity.countIn, Severity.countIn, List.countP_nil,
            Nat.zero_add]
      _ = s.countIn (r.diagnostics ++ [d]) := List.countP_append.symm

/-- Counting a model leaves the findings alone. -/
theorem AccountsFor.recordModel (h : r.AccountsFor ds ns) (n : Nat) :
    (r.recordModel n).AccountsFor ds (ns ++ [n]) := by
  refine ⟨h.diagnostics, h.total, fun s => ?_, ?_, ?_⟩
  · have hsame : (r.recordModel n).summary.counter s = r.summary.counter s := by cases s <;> rfl
    exact hsame.trans (h.counter s)
  · calc (r.recordModel n).summary.modelsReconciled
        = r.summary.modelsReconciled + 1 := rfl
      _ = (ns ++ [n]).length := by
        rw [h.modelsReconciled, List.length_append, List.length_singleton]
  · calc (r.recordModel n).summary.operationsPlanned
        = r.summary.operationsPlanned + n := rfl
      _ = (ns ++ [n]).sum := by rw [h.operationsPlanned, List.sum_append, List.sum_singleton]

/-- A step keeps account of what it adds or counts. -/
theorem AccountsFor.after (h : r.AccountsFor ds ns) (step : ReportStep) :
    (r.after step).AccountsFor (ds ++ step.finding?.toList) (ns ++ step.operations?.toList) := by
  cases step with
  | finding d =>
    rw [ReportStep.operations?, Option.toList_none, List.append_nil]
    exact h.add d
  | model n =>
    rw [ReportStep.finding?, Option.toList_none, List.append_nil]
    exact h.recordModel n

/-- So does a run. -/
theorem AccountsFor.run (h : r.AccountsFor ds ns) (steps : List ReportStep) :
    (r.run steps).AccountsFor (ds ++ ReportStep.findings steps)
      (ns ++ ReportStep.operations steps) := by
  induction steps generalizing r ds ns with
  | nil =>
    rw [ReportStep.findings, ReportStep.operations, List.filterMap_nil, List.filterMap_nil,
      List.append_nil, List.append_nil]
    exact h
  | cons step steps ih =>
    have hrest := ih (h.after step)
    have hcons : ∀ {β : Type} (f : ReportStep → Option β),
        (step :: steps).filterMap f = (f step).toList ++ steps.filterMap f := by
      intro β f
      cases hstep : f step <;> simp [hstep]
    rw [List.append_assoc, List.append_assoc] at hrest
    rw [ReportStep.findings, ReportStep.operations, hcons, hcons]
    exact hrest

/-- The findings that a report is begun with are added one by one to an empty report. -/
theorem ofDiagnostics_eq_run (timestamp : String) (ds : List Diagnostic) :
    ofDiagnostics timestamp ds = (empty timestamp).run (ds.map .finding) := by
  rw [run, List.foldl_map]
  rfl

/-- A report that is begun with findings accounts for them. -/
theorem accountsFor_ofDiagnostics (timestamp : String) (ds : List Diagnostic) :
    (ofDiagnostics timestamp ds).AccountsFor ds [] := by
  have hfindings : ReportStep.findings (ds.map .finding) = ds := by
    rw [ReportStep.findings, List.filterMap_map]
    exact List.filterMap_some
  have hoperations : ReportStep.operations (ds.map .finding) = [] := by
    rw [ReportStep.operations, List.filterMap_map]
    exact List.filterMap_eq_nil_iff.mpr fun _ _ => rfl
  have hrun := (accountsFor_empty timestamp).run (ds.map .finding)
  rw [hfindings, hoperations, List.nil_append, List.nil_append] at hrun
  rw [ofDiagnostics_eq_run]
  exact hrun

/-- Every finding has one of the three severities. -/
theorem length_eq_countIn (ds : List Diagnostic) :
    ds.length = Severity.error.countIn ds + Severity.warn.countIn ds
      + Severity.info.countIn ds := by
  induction ds with
  | nil => rfl
  | cons d ds ih =>
    rw [List.length_cons, ih]
    cases hseverity : d.severity <;> simp [Severity.countIn_cons, hseverity] <;> omega

/-- The counters of the severities add up. -/
theorem AccountsFor.total_eq (h : r.AccountsFor ds ns) :
    r.summary.total = r.summary.errors + r.summary.warnings + r.summary.info := by
  have herrors : r.summary.errors = Severity.error.countIn r.diagnostics := h.counter .error
  have hwarnings : r.summary.warnings = Severity.warn.countIn r.diagnostics := h.counter .warn
  have hinfo : r.summary.info = Severity.info.countIn r.diagnostics := h.counter .info
  rw [h.total, herrors, hwarnings, hinfo]
  exact length_eq_countIn r.diagnostics

/-- A report has errors exactly when one of its findings is an error. -/
theorem AccountsFor.hasErrors_iff (h : r.AccountsFor ds ns) :
    r.hasErrors = true ↔ ∃ d ∈ r.diagnostics, d.severity = .error := by
  have herrors : r.summary.errors = Severity.error.countIn r.diagnostics := h.counter .error
  rw [hasErrors, decide_eq_true_iff, herrors, Severity.countIn_pos_iff]

/-! ### Main result -/

/-- **The counters follow the steps.** A report is begun with findings and goes through a run. At
every point of it the report accounts for the findings so far, in order, and for the numbers of
operations so far; the counters of the severities add up to that of all findings; and there are
errors exactly when an error is in the list. If the operations of the whole run can be counted in
64 bits, they can at every point. To begin with findings is to add them one by one. -/
theorem counters_follow_steps (timestamp : String) (initial : List Diagnostic)
    (steps : List ReportStep) (hsum : (ReportStep.operations steps).sum < Nat.pow 2 64) :
    (∀ done r, done <+: steps → (ofDiagnostics timestamp initial).run done = r →
        r.AccountsFor (initial ++ ReportStep.findings done) (ReportStep.operations done)
          ∧ r.summary.total = r.summary.errors + r.summary.warnings + r.summary.info
          ∧ (r.hasErrors = true ↔ ∃ d ∈ r.diagnostics, d.severity = .error)
          ∧ r.summary.operationsPlanned < Nat.pow 2 64)
      ∧ ofDiagnostics timestamp initial = (empty timestamp).run (initial.map .finding) := by
  refine ⟨?_, ofDiagnostics_eq_run timestamp initial⟩
  rintro done r ⟨rest, rfl⟩ rfl
  have haccount := (accountsFor_ofDiagnostics timestamp initial).run done
  rw [List.nil_append] at haccount
  refine ⟨haccount, haccount.total_eq, haccount.hasErrors_iff, ?_⟩
  -- what is counted so far is a part of the whole sum
  rw [ReportStep.operations_append, List.sum_append] at hsum
  rw [haccount.operationsPlanned]
  omega

/-- A model is counted before a warning is found and another after it; the report was begun with
an error. -/
theorem counters_follow_steps_interleaved :
    let error : Diagnostic := { code := .schemaOutOfSync, severity := .error, message := "drift" }
    let warning : Diagnostic := { code := .warning, severity := .warn, message := "slow" }
    let steps : List ReportStep := [.model 2, .finding warning, .model 0]
    let r := (ofDiagnostics "2024-05-01" [error]).run steps
    (ReportStep.operations steps).sum < Nat.pow 2 64
      ∧ r.AccountsFor [error, warning] [2, 0] ∧ r.hasErrors = true
      ∧ r.summary = ⟨2, 1, 1, 0, 2, 2⟩ := by
  intro error warning steps r
  have hsum : (ReportStep.operations steps).sum < Nat.pow 2 64 := by decide
  obtain ⟨haccount, -, herrors, -⟩ :=
    (counters_follow_steps "2024-05-01" [error] steps hsum).1 steps r (List.prefix_refl steps) rfl
  exact ⟨hsum, haccount, herrors.mpr ⟨error, List.mem_cons_self, rfl⟩, rfl⟩

end Report

end SchemaDrift
