import Mathlib.Data.List.Forall2
import SchemaDrift.Proofs.Plan.State

/-!
# What the findings of a plan tell

A plan reports one finding for each entry of its drift. How serious a finding is, and with it
whether a column is said to be acted on, is read off the policy. The operations of the plan are
made from the drift and its state is found by running them, so nothing in the definitions ties
the three together; here they are shown to tell the same story.

* `forall₂_reports`: the findings report the entries of the drift, one each and in order.
* `forall₂_announces`: the findings that are mere information announce the operations, one each
  and in order.
* `converged_iff_no_warning`: a plan converges exactly when no added or removed column is warned
  about. Changes of type are always warned about and make no difference.

The last law is about what a plan leaves: of the columns that are new it leaves all or none, as
its policy adds columns or not (`newTo_target_eq`), and likewise of those that are missing
(`missingFrom_target_eq`). Warnings go by the very same question
(`forall_diagnostics_ne_warn_iff`).
-/

namespace SchemaDrift

/-- An **entry** of a drift: a column on one of its sides. -/
inductive Drift.Entry where
  | added (c : Column)
  | removed (c : Column)
  | retyped (r : Retyped)
deriving DecidableEq, Repr

/-- The entries of a drift: what is added, what is removed, what is retyped. -/
def Drift.entries (d : Drift) : List Drift.Entry :=
  d.added.map .added ++ d.removed.map .removed ++ d.retyped.map .retyped

namespace Diagnostic

/-- A finding **reports** an entry of a drift: it has the code of its side and names its column,
and for a change of type it compares the two types. -/
inductive Reports (d : Diagnostic) : Drift.Entry → Prop
  | added {c : Column} (code : d.code = .driftColumnAdded) (columns : d.columns = [c.name]) :
      Reports d (.added c)
  | removed {c : Column} (code : d.code = .driftColumnRemoved) (columns : d.columns = [c.name]) :
      Reports d (.removed c)
  | retyped {r : Retyped} (code : d.code = .driftTypeChange) (columns : d.columns = [r.name])
      (expected : d.expected = some r.existingType) (actual : d.actual = some r.incomingType) :
      Reports d (.retyped r)

/-- A finding **announces** an operation: it has the code for what the operation does and names
its column. -/
inductive Announces (d : Diagnostic) : Operation → Prop
  | add {c : Column} (code : d.code = .driftColumnAdded) (columns : d.columns = [c.name]) :
      Announces d (.add c)
  | drop {c : Column} (code : d.code = .driftColumnRemoved) (columns : d.columns = [c.name]) :
      Announces d (.drop c)

end Diagnostic

namespace Plan

variable {e : Engine} {relation : String} {existing incoming : List Column} {policy : Policy}
  {p : Plan}

/-! ### The findings and the drift -/

/-- What two functions make of the same elements, side by side. -/
private theorem forall₂_map_map {α β γ : Type} {R : β → γ → Prop} {f : α → β} {g : α → γ}
    (h : ∀ a, R (f a) (g a)) (l : List α) : List.Forall₂ R (l.map f) (l.map g) := by
  rw [List.forall₂_map_left_iff, List.forall₂_map_right_iff, List.forall₂_same]
  exact fun a _ => h a

/-- The findings report the entries of the drift, one each and in order. -/
theorem forall₂_reports (p : Plan) :
    List.Forall₂ Diagnostic.Reports p.diagnostics p.drift.entries := by
  refine List.rel_append (List.rel_append ?_ ?_) ?_
  · exact forall₂_map_map (fun _ => .added rfl rfl) p.drift.added
  · exact forall₂_map_map (fun _ => .removed rfl rfl) p.drift.removed
  · exact forall₂_map_map (fun _ => .retyped rfl rfl rfl rfl) p.drift.retyped

/-- No finding of a plan is an error. -/
theorem severity_ne_error_of_mem_diagnostics {d : Diagnostic} (h : d ∈ p.diagnostics) :
    d.severity ≠ .error := by
  simp only [diagnostics, List.mem_append, List.mem_map] at h
  obtain (⟨c, -, rfl⟩ | ⟨c, -, rfl⟩) | ⟨t, -, rfl⟩ := h
  · rw [addedDiagnostic]
    dsimp only
    split <;> decide
  · rw [removedDiagnostic]
    dsimp only
    split <;> decide
  · exact (by decide : Severity.warn ≠ Severity.error)

/-! ### Findings by what the policy acts on -/

section Acting

variable {acts : Bool} {f : Column → Diagnostic}

/-- Findings about columns that are acted on are information, and no others are. -/
theorem filter_info_map (hf : ∀ c, (f c).severity = if acts then .info else .warn)
    (cs : List Column) :
    (cs.map f).filter (fun d => d.severity = .info) = if acts then cs.map f else [] := by
  cases acts with
  | true => exact List.filter_eq_self.mpr (List.forall_mem_map.mpr fun c _ => by simp [hf])
  | false => exact List.filter_eq_nil_iff.mpr (List.forall_mem_map.mpr fun c _ => by simp [hf])

/-- Nothing is warned about if every column is acted on. -/
theorem forall_ne_warn_iff (hf : ∀ c, (f c).severity = if acts then .info else .warn)
    (cs : List Column) :
    (∀ c ∈ cs, (f c).severity ≠ .warn) ↔ (if acts then [] else cs) = [] := by
  cases acts with
  | true => simp [hf]
  | false => simp [hf, List.eq_nil_iff_forall_not_mem]

end Acting

/-! ### The findings and the operations -/

/-- The findings that are information: about what is added if the policy adds columns, about what
is removed if it drops any. -/
theorem filter_info_diagnostics (p : Plan) :
    p.diagnostics.filter (fun d => d.severity = .info)
      = (if addsColumns p.policy then p.drift.added.map p.addedDiagnostic else [])
        ++ if dropsColumns p.policy then p.drift.removed.map p.removedDiagnostic else [] := by
  have hadded := filter_info_map (f := p.addedDiagnostic) (fun _ => rfl) p.drift.added
  have hremoved := filter_info_map (f := p.removedDiagnostic) (fun _ => rfl) p.drift.removed
  have hretyped : (p.drift.retyped.map p.retypedDiagnostic).filter (fun d => d.severity = .info)
      = [] :=
    List.filter_eq_nil_iff.mpr (List.forall_mem_map.mpr fun r _ => by simp [retypedDiagnostic])
  rw [diagnostics, List.filter_append, List.filter_append, hadded, hremoved, hretyped,
    List.append_nil]

/-- The findings that are information announce the operations, one each and in order. -/
theorem forall₂_announces (h : reconcile e relation existing incoming policy = .ok p) :
    List.Forall₂ Diagnostic.Announces (p.diagnostics.filter fun d => d.severity = .info)
      p.operations := by
  rw [filter_info_diagnostics, operations_of_reconcile h, policy_of_reconcile h,
    drift_of_reconcile h, Drift.added_between, Drift.removed_between]
  refine List.rel_append ?_ ?_
  · split
    · exact forall₂_map_map (fun _ => .add rfl rfl) _
    · exact .nil
  · split
    · exact forall₂_map_map (fun _ => .drop rfl rfl) _
    · exact .nil

/-! ### The findings and the state -/

/-- A plan leaves all new columns or none. -/
theorem newTo_target_eq (h : reconcile e relation existing incoming policy = .ok p) :
    Column.newTo e p.target incoming
      = if addsColumns policy then [] else Column.newTo e existing incoming := by
  cases policy with
  | ignore | fail =>
    rw [target_of_reconcile h, operations_of_reconcile h]
    rfl
  | appendNewColumns | syncAllColumns => exact newTo_target h rfl

/-- A plan leaves all missing columns or none: additions make no difference to them. -/
theorem missingFrom_target_eq (h : reconcile e relation existing incoming policy = .ok p) :
    Column.missingFrom e incoming p.target
      = if dropsColumns policy then [] else Column.missingFrom e incoming existing := by
  cases policy with
  | ignore | fail =>
    rw [target_of_reconcile h, operations_of_reconcile h]
    rfl
  | appendNewColumns =>
    rw [target_append h, appended]
    refine Column.missingFrom_append fun k hk => ?_
    rw [Column.map_key_numberFrom] at hk
    exact (Column.mem_map_key_newTo.mp hk).1
  | syncAllColumns => exact missingFrom_target h rfl

/-- No added or removed column is warned about if the policy acts on all that there are. -/
theorem forall_diagnostics_ne_warn_iff (p : Plan) :
    (∀ d ∈ p.diagnostics, d.code = .driftColumnAdded ∨ d.code = .driftColumnRemoved →
        d.severity ≠ .warn)
      ↔ (if addsColumns p.policy then [] else p.drift.added) = []
        ∧ (if dropsColumns p.policy then [] else p.drift.removed) = [] := by
  have hadded := forall_ne_warn_iff (f := p.addedDiagnostic) (fun _ => rfl) p.drift.added
  have hremoved := forall_ne_warn_iff (f := p.removedDiagnostic) (fun _ => rfl) p.drift.removed
  -- changes of type have a code of their own
  have hretyped : ∀ r ∈ p.drift.retyped, (p.retypedDiagnostic r).code = .driftColumnAdded
      ∨ (p.retypedDiagnostic r).code = .driftColumnRemoved →
        (p.retypedDiagnostic r).severity ≠ .warn := by
    rintro r - (hcode | hcode) <;> cases hcode
  rw [diagnostics, List.forall_mem_append, List.forall_mem_append, List.forall_mem_map,
    List.forall_mem_map, List.forall_mem_map, and_iff_left hretyped, ← hadded, ← hremoved]
  exact and_congr (forall₂_congr fun c _ => forall_prop_of_true (.inl rfl))
    (forall₂_congr fun c _ => forall_prop_of_true (.inr rfl))

/-- A plan converges exactly when no added or removed column is warned about. -/
theorem converged_iff_no_warning (h : reconcile e relation existing incoming policy = .ok p) :
    p.state = .converged
      ↔ ∀ d ∈ p.diagnostics, d.code = .driftColumnAdded ∨ d.code = .driftColumnRemoved →
          d.severity ≠ .warn := by
  -- both sides ask whether the policy leaves a new column or a missing one
  rw [forall_diagnostics_ne_warn_iff, policy_of_reconcile h, drift_of_reconcile h,
    Drift.added_between, Drift.removed_between, state_eq_converged_iff h, Column.sameKeys_iff,
    newTo_target_eq h, missingFrom_target_eq h]

/-- **The findings tell the plan.** They report the entries of the drift one by one, and none of
them is an error; those that are information announce the operations one by one; and the plan
converges exactly when no added or removed column is warned about. -/
theorem diagnostics_tell_plan (h : reconcile e relation existing incoming policy = .ok p) :
    List.Forall₂ Diagnostic.Announces (p.diagnostics.filter fun d => d.severity = .info)
        p.operations
      ∧ (p.state = .converged
          ↔ ∀ d ∈ p.diagnostics, d.code = .driftColumnAdded ∨ d.code = .driftColumnRemoved →
              d.severity ≠ .warn)
      ∧ List.Forall₂ Diagnostic.Reports p.diagnostics p.drift.entries
      ∧ ∀ d ∈ p.diagnostics, d.severity ≠ .error :=
  ⟨forall₂_announces h, converged_iff_no_warning h, forall₂_reports p,
    fun _ => severity_ne_error_of_mem_diagnostics⟩

/-- The columns of a table of receipts. -/
def receipts : List Column := [⟨"ID", "NUMBER", 1⟩, ⟨"Note", "TEXT", 2⟩, ⟨"TOTAL", "INT", 3⟩]

/-- A load that brings one column under two spellings, lacks one and changes the type of one. -/
def receiptLoad : List Column :=
  [⟨"id", "NUMBER", 1⟩, ⟨"Paid", "DATE", 2⟩, ⟨"total", "FLOAT", 3⟩, ⟨"PAID", "DATE", 4⟩]

/-- The plan that adds the new column once and keeps the column that the load lacks. -/
def receiptPlan : Plan :=
  running Dialect.snowflake.engine "receipts" .appendNewColumns receipts
    (Drift.between Dialect.snowflake.engine receipts receiptLoad) [.add ⟨"Paid", "DATE", 2⟩]

/-- One finding for each side of the drift; the column that is kept keeps the plan from
converging. -/
theorem diagnostics_tell_plan_receipts :
    reconcile Dialect.snowflake.engine "receipts" receipts receiptLoad .appendNewColumns
        = .ok receiptPlan
      ∧ List.Forall₂ Diagnostic.Announces
          (receiptPlan.diagnostics.filter fun d => d.severity = .info)
          [.add ⟨"Paid", "DATE", 2⟩]
      ∧ List.Forall₂ Diagnostic.Reports receiptPlan.diagnostics
          [.added ⟨"Paid", "DATE", 2⟩, .removed ⟨"Note", "TEXT", 2⟩,
            .retyped ⟨"TOTAL", "INT", "FLOAT"⟩]
      ∧ receiptPlan.state ≠ .converged := by
  have hplan : reconcile Dialect.snowflake.engine "receipts" receipts receiptLoad .appendNewColumns
      = .ok receiptPlan := by
    decide +kernel
  have hdrift : receiptPlan.drift
      = ⟨[⟨"Paid", "DATE", 2⟩], [⟨"Note", "TEXT", 2⟩], [⟨"TOTAL", "INT", "FLOAT"⟩]⟩ := by
    decide +kernel
  obtain ⟨hannounces, hstate, hreports, -⟩ := diagnostics_tell_plan hplan
  rw [hdrift] at hreports
  refine ⟨hplan, hannounces, hreports, fun hconverged => ?_⟩
  have hkept : receiptPlan.removedDiagnostic ⟨"Note", "TEXT", 2⟩ ∈ receiptPlan.diagnostics := by
    simp [diagnostics, hdrift]
  exact hstate.mp hconverged _ hkept (.inr rfl) rfl

end Plan

end SchemaDrift
