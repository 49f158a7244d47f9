import SchemaDrift.Plan
import SchemaDrift.Proofs.Data.Records
import SchemaDrift.Report

/-!
# Written records are read back

Plans, diagnostics and reports are written as data trees, and these are read again by other runs
and other tools. What is absent is written in three ways: it is left out, it is null, or it is an
empty list that is left out. Each reader has to know the way of its writer, and
`written_records_read_back` says that all of them do, whatever is absent. The one exception is the
metadata of a report, where null is written as it stands and read as absence.

Numbers are written as they are, and read as numbers of 64 bits, or of 32 bits in a version. A
record **fits** when its numbers do.
-/

namespace SchemaDrift

/-! ### Columns and operations -/

/-- A column whose position has 64 bits. -/
def Column.Fits (c : Column) : Prop := c.ordinal < Nat.pow 2 64

instance (c : Column) : Decidable c.Fits := inferInstanceAs (Decidable (c.ordinal < Nat.pow 2 64))

theorem Column.ofData?_toData {c : Column} (h : c.Fits) (form : Form) :
    ofData? form c.toData = some c := by
  rw [ofData?, toData, Data.fields?_of_nodup (by simp)]
  simp [Fields.required, Fields.defaulted, Data.count?_ofNat h]

theorem Column.listOfData?_listToData {cs : List Column} (h : ∀ c ∈ cs, c.Fits) (form : Form) :
    listOfData? form (listToData cs) = some cs :=
  Data.list?_map fun c hc => ofData?_toData (h c hc) form

theorem Operation.ofData?_toData {op : Operation} (h : op.column.Fits) (form : Form) :
    ofData? form op.toData = some op := by
  rw [ofData?, toData, Data.fields?_of_nodup (by simp)]
  cases op with
  | add c =>
    have hcolumn : Column.ofData? form c.toData = some c := Column.ofData?_toData h form
    simp [Fields.required, Data.choice?, intent, column, hcolumn]
  | drop c =>
    have hcolumn : Column.ofData? form c.toData = some c := Column.ofData?_toData h form
    simp [Fields.required, Data.choice?, intent, column, Dictionary.lookup_cons_eq, hcolumn]

/-! ### Plans -/

theorem Retyped.ofData?_toData (r : Retyped) (form : Form) : ofData? form r.toData = some r := by
  rw [ofData?, toData, Data.fields?_of_nodup (by simp)]
  simp [Fields.required]

/-- A drift whose columns fit. -/
structure Drift.Fits (d : Drift) : Prop where
  added : ∀ c ∈ d.added, c.Fits
  removed : ∀ c ∈ d.removed, c.Fits

theorem Drift.ofData?_toData {d : Drift} (h : d.Fits) (form : Form) :
    ofData? form d.toData = some d := by
  have hretyped : Data.list? (Retyped.ofData? form) (.list (d.retyped.map Retyped.toData))
      = some d.retyped := Data.list?_map fun r _ => r.ofData?_toData form
  rw [ofData?, toData, Data.fields?_of_nodup (by simp)]
  simp [Fields.required, Column.listOfData?_listToData h.added,
    Column.listOfData?_listToData h.removed, hretyped]

theorem Policy.ofData?_toData (p : Policy) (form : Form) : ofData? form p.toData = some p := by
  cases p <;> rfl

theorem Plan.choice?_stateText (s : PlanState) (form : Form) :
    Data.choice? form [("converged", PlanState.converged), ("drift_ignored", .driftIgnored)]
      (.text (stateText s)) = some s := by
  cases s <;> rfl

/-- A plan whose columns fit. -/
structure Plan.Fits (p : Plan) : Prop where
  drift : p.drift.Fits
  operations : ∀ op ∈ p.operations, op.column.Fits
  target : ∀ c ∈ p.target, c.Fits

/-- A plan is read back. -/
theorem Plan.ofData?_toData {p : Plan} (h : p.Fits) (form : Form) :
    ofData? form p.toData = some p := by
  have hoperations : Data.list? (Operation.ofData? form) (.list (p.operations.map Operation.toData))
      = some p.operations :=
    Data.list?_map fun op hop => Operation.ofData?_toData (h.operations op hop) form
  rw [ofData?, toData, Data.fields?_of_nodup (by simp)]
  simp [Fields.required, p.policy.ofData?_toData, Drift.ofData?_toData h.drift,
    hoperations, Column.listOfData?_listToData h.target, choice?_stateText]

/-! ### Diagnostics -/

theorem DiagnosticCode.ofData?_text (c : DiagnosticCode) (form : Form) :
    ofData? form (.text c.text) = some c := by
  cases c <;> rfl

theorem Severity.ofData?_text (s : Severity) (form : Form) :
    ofData? form (.text s.text) = some s := by
  cases s <;> rfl

/-- A diagnostic is read back, whatever is absent from it. -/
theorem Diagnostic.ofData?_toData (d : Diagnostic) (form : Form) :
    ofData? form d.toData = some d := by
  obtain ⟨code, severity, message, relation, expected, actual, columns⟩ := d
  -- the relation and the columns are left out when there are none, so the names differ
  cases relation <;> cases columns <;>
    simp [ofData?, toData, Data.fields?_of_nodup, Data.optionalField, Fields.required,
      Fields.optional, Fields.optionalOrAbsent, Fields.defaulted, DiagnosticCode.ofData?_text,
      Severity.ofData?_text]

/-! ### Reports -/

/-- A version whose numbers have 32 bits. -/
structure ReportVersion.Fits (v : ReportVersion) : Prop where
  major : v.major < Nat.pow 2 32
  minor : v.minor < Nat.pow 2 32

theorem ReportVersion.ofData?_toData {v : ReportVersion} (h : v.Fits) (form : Form) :
    ofData? form v.toData = some v := by
  obtain ⟨hmajor, hminor⟩ := h
  rw [ofData?, toData, Data.fields?_of_nodup (by simp)]
  simp (disch := omega) [Fields.required, Data.natBelow?_ofNat]

/-- Counters that have 64 bits. -/
structure ReportSummary.Fits (s : ReportSummary) : Prop where
  total : s.total < Nat.pow 2 64
  errors : s.errors < Nat.pow 2 64
  warnings : s.warnings < Nat.pow 2 64
  info : s.info < Nat.pow 2 64
  modelsReconciled : s.modelsReconciled < Nat.pow 2 64
  operationsPlanned : s.operationsPlanned < Nat.pow 2 64

theorem ReportSummary.ofData?_toData {s : ReportSummary} (h : s.Fits) (form : Form) :
    ofData? form s.toData = some s := by
  rw [ofData?, toData, Data.fields?_of_nodup (by simp)]
  simp [Fields.required, Data.count?_ofNat h.total, Data.count?_ofNat h.errors,
    Data.count?_ofNat h.warnings, Data.count?_ofNat h.info,
    Data.count?_ofNat h.modelsReconciled, Data.count?_ofNat h.operationsPlanned]

theorem Value.isNull_data_iff {v : Value} : v.data.isNull = true ↔ v = .null := by
  constructor
  · intro h
    obtain ⟨d, hd⟩ := v
    cases d with
    | null => rfl
    | _ => cases h
  · rintro rfl
    rfl

/-- A kept value is read back where null counts as absence, unless it is null. -/
theorem Data.nullable?_data (v : Value) :
    nullable? Value.of? v.data = some ((some v).filter fun v => !v.data.isNull) := by
  have hv := v.of?_data
  obtain ⟨d, hd⟩ := v
  cases d with
  | null => rfl
  | _ => exact congrArg (Option.map some) hv

/-- A report whose version and counters fit. -/
structure Report.Fits (r : Report) : Prop where
  version : r.version.Fits
  summary : r.summary.Fits

/-- A report is read back, except that null metadata is read as absent. -/
theorem Report.ofData?_toData {r : Report} (h : r.Fits) (form : Form) :
    ofData? form r.toData
      = some { r with metadata := r.metadata.filter fun v => !v.data.isNull } := by
  obtain ⟨version, timestamp, summary, diagnostics, metadata⟩ := r
  have hversion := ReportVersion.ofData?_toData h.version form
  have hsummary := ReportSummary.ofData?_toData h.summary form
  have hdiagnostics : Data.list? (Diagnostic.ofData? form)
      (.list (diagnostics.map Diagnostic.toData)) = some diagnostics :=
    Data.list?_map fun d _ => d.ofData?_toData form
  cases metadata with
  | none =>
    simp [ofData?, toData, Data.fields?_of_nodup, Data.optionalField, Fields.required,
      Fields.optional, hversion, hsummary, hdiagnostics]
  | some v =>
    simp [ofData?, toData, Data.fields?_of_nodup, Data.optionalField, Fields.required,
      Fields.optional, Data.nullable?_data, hversion, hsummary, hdiagnostics]

/-- A report is read back, unless its metadata is null. -/
theorem Report.ofData?_toData_of_ne_null {r : Report} (h : r.Fits) (form : Form)
    (hmetadata : r.metadata ≠ some .null) : ofData? form r.toData = some r := by
  have hkept : r.metadata.filter (fun v => !v.data.isNull) = r.metadata := by
    cases hv : r.metadata with
    | none => rfl
    | some v =>
      have hne : v ≠ .null := fun hnull => hmetadata (hnull ▸ hv)
      exact Option.filter_some_pos (by simpa using mt Value.isNull_data_iff.mp hne)
  rw [ofData?_toData h form, hkept]

/-! ### Main result -/

/-- **Written records are read back.** Plans, diagnostics and reports that fit are read from what
was written for them as they were, except for a report whose metadata is null: it comes back
without metadata. -/
theorem written_records_read_back (form : Form) :
    (∀ p : Plan, p.Fits → Plan.ofData? form p.toData = some p)
      ∧ (∀ d : Diagnostic, Diagnostic.ofData? form d.toData = some d)
      ∧ ∀ r : Report, r.Fits →
        (r.metadata ≠ some .null → Report.ofData? form r.toData = some r)
          ∧ (r.metadata = some .null →
            Report.ofData? form r.toData = some { r with metadata := none }) := by
  refine ⟨fun p hp => Plan.ofData?_toData hp form, fun d => d.ofData?_toData form,
    fun r hr => ⟨Report.ofData?_toData_of_ne_null hr form, fun hmetadata => ?_⟩⟩
  rw [Report.ofData?_toData hr form, hmetadata]
  rfl

/-- A plan that adds one column and drops another, and a report with a finding of one side only.
Null metadata is what the report loses. -/
theorem written_records_read_back_null_metadata :
    let id : Column := ⟨"id", "INT", 1⟩
    let total : Column := ⟨"total", "FLOAT", 2⟩
    let old : Column := ⟨"old", "TEXT", 2⟩
    let plan : Plan :=
      { relation := "orders", policy := .syncAllColumns, drift := ⟨[total], [old], []⟩
        operations := [.add total, .drop old], target := [id, total], state := .converged }
    let report := Report.ofDiagnostics "2024-05-01"
      [{ code := .driftTypeChange, severity := .warn, message := "changed", actual := some "INT" }]
    plan.Fits ∧ report.Fits
      ∧ Plan.ofData? .json plan.toData = some plan
      ∧ Report.ofData? .json report.toData = some report
      ∧ Report.ofData? .json { report with metadata := some .null }.toData = some report := by
  intro id total old plan report
  obtain ⟨hplans, -, hreports⟩ := written_records_read_back .json
  have hplan : plan.Fits := by
    constructor
    · constructor <;> decide
    all_goals decide
  have hreport : report.Fits := by
    constructor <;> constructor <;> decide
  have hnull : { report with metadata := some .null }.Fits := ⟨hreport.version, hreport.summary⟩
  have hsame := (hreports report hreport).1 nofun
  have hlost := (hreports { report with metadata := some .null } hnull).2 rfl
  exact ⟨hplan, hreport, hplans plan hplan, hsame, hlost⟩

end SchemaDrift
