import SchemaDrift.Report

/-!
# The counters of a report

A report counts its findings while they are added, one counter for each severity and one for all
of them. `foldl_add` tells the counters of a whole list at once: each grows by the number of
findings of its severity. So a report that began without findings has an error exactly when one
of its findings is an error (`hasErrors_foldl_add`).
-/

namespace SchemaDrift

/-- The number of findings of a severity. -/
def Severity.countIn (s : Severity) (ds : List Diagnostic) : Nat :=
  ds.countP fun d => d.severity = s

theorem Severity.countIn_cons (s : Severity) (d : Diagnostic) (ds : List Diagnostic) :
    s.countIn (d :: ds) = s.countIn ds + if d.severity = s then 1 else 0 := by
  simp only [countIn, List.countP_cons, decide_eq_true_eq]

theorem Severity.countIn_pos_iff {s : Severity} {ds : List Diagnostic} :
    0 < s.countIn ds ↔ ∃ d ∈ ds, d.severity = s := by
  simp only [countIn, List.countP_pos_iff, decide_eq_true_eq]

namespace Report

/-- Counters **grown** by the numbers of findings in a list. -/
def grown (s : ReportSummary) (ds : List Diagnostic) : ReportSummary :=
  { s with
    total := s.total + ds.length
    errors := s.errors + Severity.error.countIn ds
    warnings := s.warnings + Severity.warn.countIn ds
    info := s.info + Severity.info.countIn ds }

theorem grown_nil (s : ReportSummary) : grown s [] = s := rfl

/-- Counting one finding, then others. -/
theorem grown_cons (s : ReportSummary) (d : Diagnostic) (ds : List Diagnostic) :
    grown s (d :: ds) = grown (countSeverity s d.severity) ds := by
  simp only [grown, Severity.countIn_cons, List.length_cons]
  cases hseverity : d.severity <;> simp [countSeverity] <;> omega

/-- Adding findings adds them to the list and their numbers to the counters. -/
theorem foldl_add (r : Report) (ds : List Diagnostic) :
    ds.foldl add r
      = { r with summary := grown r.summary ds, diagnostics := r.diagnostics ++ ds } := by
  induction ds generalizing r with
  | nil => rw [List.foldl_nil, grown_nil, List.append_nil]
  | cons d ds ih =>
    rw [List.foldl_cons, ih, grown_cons, add, List.append_assoc]
    rfl

/-- Findings that are added to a report without errors make an error exactly when one is. -/
theorem hasErrors_foldl_add {r : Report} (h : r.summary.errors = 0) {ds : List Diagnostic} :
    (ds.foldl add r).hasErrors = true ↔ ∃ d ∈ ds, d.severity = .error := by
  rw [foldl_add, hasErrors, decide_eq_true_iff, grown, h, Nat.zero_add, Severity.countIn_pos_iff]

end Report

end SchemaDrift
