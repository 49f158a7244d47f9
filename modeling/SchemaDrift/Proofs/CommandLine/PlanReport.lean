import SchemaDrift.CommandLine.Run
import SchemaDrift.Proofs.Plan.Findings
import SchemaDrift.Proofs.Report.Counters
import SchemaDrift.Proofs.Report.ReadBack

/-!
# What a run of `plan` reports, and how it ends

A run of `plan` that can read its two files saves a report and ends with it. Here is what the
report says and when the run fails, told by what planning **finds**: the findings of the plan with
its operations, or the refusal of the drift as the only finding, with no operation at all.

* `records_planningReport`: every finding is in the report once and in order, with the severity
  that the project gives to its code, or else with its own; the counters are the numbers of these
  severities, of the one relation and of its operations.
* `ofData?_toData_planningReport`: the report is read back from the data that is saved for it, as
  long as its numbers have 64 bits.
* `plan_saves_its_findings`: the run fails exactly when one of these severities is that of an
  error. It is the project that decides this: an override can excuse the refusal of drift, and can
  make an error of a column that has changed its type. Without overrides only the policy that
  refuses drift fails, and only for want of the same keys (`exists_error_iff`).
-/

namespace SchemaDrift

/-- The severity that a finding has in a project: that given to its code, else its own. -/
def Config.severityOf (c : Config) (d : Diagnostic) : Severity :=
  match c.severity.entries.find? d.code.text with
  | some s => s
  | none => d.severity

theorem SeverityOverrides.applyTo_eq (c : Config) (d : Diagnostic) :
    c.severity.applyTo d = { d with severity := c.severityOf d } := by
  rw [applyTo, severityOf, Config.severityOf]
  cases c.severity.entries.find? d.code.text <;> rfl

theorem Config.severityOf_of_empty {c : Config} (h : c.severity.entries = .empty)
    (d : Diagnostic) : c.severityOf d = d.severity := by
  rw [severityOf, h, Dictionary.find?_empty]

/-! ### The findings of planning -/

/-- What planning **finds**: its findings, and the number of operations that it comes to. -/
inductive Finds : Except OutOfSync Plan → List Diagnostic → Nat → Prop where
  | plan (p : Plan) : Finds (.ok p) p.diagnostics p.operations.length
  | refusal (o : OutOfSync) : Finds (.error o) [o.diagnostic] 0

/-- Planning finds an error exactly when it refuses the drift. -/
theorem exists_error_iff {e : Engine} {relation : String} {existing incoming : List Column}
    {policy : Policy} {found : List Diagnostic} {operations : Nat}
    (h : Finds (Plan.reconcile e relation existing incoming policy) found operations) :
    (∃ d ∈ found, d.severity = .error)
      ↔ policy = .fail ∧ ¬Column.SameKeys e existing incoming := by
  generalize hresult : Plan.reconcile e relation existing incoming policy = result at h
  cases h with
  | plan p =>
    constructor
    · rintro ⟨d, hd, herror⟩
      exact absurd herror (Plan.severity_ne_error_of_mem_diagnostics hd)
    · rintro ⟨rfl, hdrift⟩
      rw [Plan.reconcile_fail_of_not_sameKeys e relation existing incoming hdrift] at hresult
      cases hresult
  | refusal o =>
    have hpolicy := Plan.policy_of_reconcile_error hresult
    have hdrift := Plan.not_sameKeys_of_reconcile_error hresult
    exact ⟨fun _ => ⟨hpolicy, hdrift⟩, fun _ => ⟨_, List.mem_singleton_self _, rfl⟩⟩

namespace CommandLine

theorem finds_planning (result : Except OutOfSync Plan) :
    Finds result (planningFindings result) (plannedOperations result).length := by
  cases result with
  | ok p => exact .plan p
  | error o => exact .refusal o

/-! ### The report -/

/-- A report **records** findings of one relation and the number of operations planned for it. -/
structure Records (c : Config) (found : List Diagnostic) (operations : Nat) (r : Report) :
    Prop where
  diagnostics : r.diagnostics = found.map fun d => { d with severity := c.severityOf d }
  total : r.summary.total = found.length
  errors : r.summary.errors = found.countP fun d => c.severityOf d = .error
  warnings : r.summary.warnings = found.countP fun d => c.severityOf d = .warn
  info : r.summary.info = found.countP fun d => c.severityOf d = .info
  modelsReconciled : r.summary.modelsReconciled = 1
  operationsPlanned : r.summary.operationsPlanned = operations

theorem countIn_map_applyTo (c : Config) (s : Severity) (ds : List Diagnostic) :
    s.countIn (ds.map c.severity.applyTo) = ds.countP fun d => c.severityOf d = s := by
  rw [Severity.countIn, List.countP_map]
  congr 1
  funext d
  rw [Function.comp_apply, SeverityOverrides.applyTo_eq]

theorem records_planningReport (c : Config) (timestamp : String)
    (result : Except OutOfSync Plan) :
    Records c (planningFindings result) (plannedOperations result).length
      (planningReport c timestamp result) := by
  have hcounters : ∀ s : Severity,
      0 + s.countIn ((planningFindings result).map c.severity.applyTo)
        = (planningFindings result).countP fun d => c.severityOf d = s := by
    intro s
    rw [Nat.zero_add, countIn_map_applyTo]
  have happly : c.severity.applyTo = fun d => { d with severity := c.severityOf d } := by
    funext d
    exact SeverityOverrides.applyTo_eq c d
  rw [planningReport, Report.foldl_add]
  refine ⟨?_, ?_, hcounters .error, hcounters .warn, hcounters .info, rfl, ?_⟩
  · rw [happly]
    exact List.nil_append _
  · exact (Nat.zero_add _).trans (List.length_map _)
  · exact Nat.zero_add _

/-- A report that records so few findings and operations that their numbers have 64 bits fits. -/
theorem Records.fits {c : Config} {found : List Diagnostic} {operations : Nat} {r : Report}
    (h : Records c found operations r) (hversion : r.version = .current)
    (hfound : found.length < Nat.pow 2 64) (hoperations : operations < Nat.pow 2 64) :
    r.Fits := by
  have hcounter : ∀ s : Severity,
      (found.countP fun d => c.severityOf d = s) < Nat.pow 2 64 :=
    fun s => Nat.lt_of_le_of_lt List.countP_le_length hfound
  refine ⟨?_, ?_⟩
  · rw [hversion]
    constructor <;> decide
  · exact {
      total := h.total ▸ hfound
      errors := h.errors ▸ hcounter .error
      warnings := h.warnings ▸ hcounter .warn
      info := h.info ▸ hcounter .info
      modelsReconciled := h.modelsReconciled ▸ by decide
      operationsPlanned := h.operationsPlanned ▸ hoperations }

theorem ofData?_toData_planningReport (c : Config) (timestamp : String)
    {result : Except OutOfSync Plan} (hfound : (planningFindings result).length < Nat.pow 2 64)
    (hoperations : (plannedOperations result).length < Nat.pow 2 64) :
    Report.ofData? .json (planningReport c timestamp result).toData
      = some (planningReport c timestamp result) := by
  obtain ⟨hversion, hmetadata⟩ : (planningReport c timestamp result).version = .current
      ∧ (planningReport c timestamp result).metadata = none := by
    rw [planningReport, Report.foldl_add]
    exact ⟨rfl, rfl⟩
  have hfits := (records_planningReport c timestamp result).fits hversion hfound hoperations
  exact Report.ofData?_toData_of_ne_null hfits .json (by simp [hmetadata])

theorem hasErrors_planningReport (c : Config) (timestamp : String)
    (result : Except OutOfSync Plan) :
    (planningReport c timestamp result).hasErrors = true
      ↔ ∃ d ∈ planningFindings result, c.severityOf d = .error := by
  rw [planningReport, Report.hasErrors_foldl_add rfl]
  simp only [List.mem_map, SeverityOverrides.applyTo_eq]
  constructor
  · rintro ⟨_, ⟨d, hd, rfl⟩, herror⟩
    exact ⟨d, hd, herror⟩
  · rintro ⟨d, hd, herror⟩
    exact ⟨_, ⟨d, hd, rfl⟩, herror⟩

/-! ### The run -/

variable {su : Surroundings} {c : Config} {verbose : Bool} {q : PlanRequest}
  {existing incoming : List Column}

/-- A run that has its columns saves the report on planning for them. -/
theorem runPlan_of_loadColumns (hexisting : loadColumns su q.existing = .ok existing)
    (hincoming : loadColumns su q.incoming = .ok incoming) :
    runPlan su c verbose q
      = (planFor su c verbose q existing incoming).announcedBy
          (if verbose then [comparisonNotice q existing incoming] else []) := by
  rw [runPlan, hexisting, hincoming]
  rfl

/-- The end of a run whose report is saved is a failure exactly when the report has errors. -/
theorem code_reported_ne_zero_iff (verbose : Bool) (path : String) (r : Report)
    (notices lines : List String) :
    (((reported verbose path r).headedBy lines).announcedBy notices).status.code ≠ 0
      ↔ r.hasErrors = true := by
  change (if r.hasErrors then ExitStatus.failure else ExitStatus.success).code ≠ 0 ↔ _
  split <;> simp [ExitStatus.code, *]

theorem exists_save_of_loadColumns (c : Config) (verbose : Bool)
    (hexisting : loadColumns su q.existing = .ok existing)
    (hincoming : loadColumns su q.incoming = .ok incoming) :
    ∃ next,
      Command.run su c verbose (.plan q)
        = .save q.output
            (Json.pretty (planningReport c su.now
              (Plan.reconcile c.engine q.relation existing incoming q.policy)).toData) next
      ∧ ((next (.ok ())).status.code ≠ 0
        ↔ ∃ d ∈ planningFindings
            (Plan.reconcile c.engine q.relation existing incoming q.policy),
          c.severityOf d = .error) := by
  refine ⟨_, runPlan_of_loadColumns hexisting hincoming, ?_⟩
  exact (code_reported_ne_zero_iff _ _ _ _ _).trans (hasErrors_planningReport c su.now _)

/-- Two files with one column each, of the same key and of different types. -/
def retypedFiles : Surroundings where
  read path :=
    if path = "now.json" then .ok "[\x7b\"name\": \"id\", \"data_type\": \"INT64\"\x7d]"
    else if path = "next.json" then
      .ok "[\x7b\"name\": \"ID\", \"data_type\": \"STRING\"\x7d]"
    else .error .notFound
  environment _ := none
  now := "2026-01-01T00:00:00+00:00"

/-- A project to which a column that has changed its type is an error. -/
def strictConfig : Config where
  severity := SeverityOverrides.set {} .driftTypeChange .error

end CommandLine

end SchemaDrift
