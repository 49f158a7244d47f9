import SchemaDrift.Proofs.Plan.Target

/-!
# What a plan leaves behind

A plan says in its state whether the relation will agree with the load. Planning has both lists
at hand when it makes the drift, but to find the state it looks at the load no more: it compares
the target with columns put together from the relation and the drift.

* `converged_iff_sameKeys`: these columns have the keys of the load, and a plan converges exactly
  when its target has them too.

A relation **rests** when planning finds nothing to do and leaves every column where it is.

* `target_rests`: once a plan has run, the relation rests under the policy of the plan. Where the
  plan converged it rests under every policy, also under the one that refuses drift.

The second law is no more than the first together with what a policy promises: a policy that adds
leaves nothing new (`newTo_target`), a policy that drops leaves nothing missing
(`missingFrom_target`), and where nothing that a policy acts on is left, it rests
(`exists_reconcile_at_rest`).
-/

namespace SchemaDrift

namespace Plan

variable {e : Engine} {relation : String} {existing incoming : List Column} {policy : Policy}
  {p : Plan}

/-! ### The state of a plan -/

/-- The columns that a target is compared with: what the relation keeps, then what is new. -/
theorem wanted_between :
    wanted e existing (Drift.between e existing incoming)
      = Column.keptBy e incoming existing ++ Column.newTo e existing incoming := by
  rw [wanted, Drift.removed_between, Drift.added_between,
    Column.filter_not_missingFrom fun _ hk => .inl hk]

theorem sameKeys_wanted :
    Column.SameKeys e (wanted e existing (Drift.between e existing incoming)) incoming := by
  rw [wanted_between]
  exact Column.sameKeys_keptBy_append_newTo e existing incoming

theorem drift_of_reconcile (h : reconcile e relation existing incoming policy = .ok p) :
    p.drift = Drift.between e existing incoming := by
  rw [eq_running_of_reconcile h]
  rfl

theorem policy_of_reconcile (h : reconcile e relation existing incoming policy = .ok p) :
    p.policy = policy := by
  rw [eq_running_of_reconcile h]
  rfl

/-- A plan converges when its target has the keys of the load. -/
theorem state_eq_converged_iff (h : reconcile e relation existing incoming policy = .ok p) :
    p.state = .converged ↔ Column.SameKeys e p.target incoming := by
  have hstate : p.state = .converged
      ↔ (Drift.between e p.target (wanted e existing (Drift.between e existing incoming))).isEmpty
        = true := by
    rw [eq_running_of_reconcile h, running]
    dsimp only
    split <;> simp [*]
  rw [hstate, Drift.isEmpty_between_iff]
  exact forall_congr' fun k => iff_congr Iff.rfl (sameKeys_wanted k)

/-- Plans have the same state if their targets have the keys of their loads or if neither has. -/
theorem state_eq_of_sameKeys_iff {existing' incoming' : List Column} {policy' : Policy} {p' : Plan}
    (h : reconcile e relation existing incoming policy = .ok p)
    (h' : reconcile e relation existing' incoming' policy' = .ok p')
    (hsame : Column.SameKeys e p'.target incoming' ↔ Column.SameKeys e p.target incoming) :
    p'.state = p.state := by
  rw [← state_eq_converged_iff h, ← state_eq_converged_iff h'] at hsame
  cases hstate : p.state with
  | converged => exact hsame.mpr hstate
  | driftIgnored =>
    cases hstate' : p'.state with
    | converged =>
      rw [hsame.mp hstate'] at hstate
      cases hstate
    | driftIgnored => rfl

/-- Plans with the same target, for the same load, have the same state. -/
theorem state_eq_of_target_eq {cs : List Column} {policy' : Policy} {p' : Plan}
    (h : reconcile e relation existing incoming policy = .ok p)
    (h' : reconcile e relation cs incoming policy' = .ok p') (htarget : p'.target = p.target) :
    p'.state = p.state :=
  state_eq_of_sameKeys_iff h h' (by rw [htarget])

/-- **Convergence of a plan.** The columns that planning puts together from the relation and the
drift have the keys of the load, so a plan converges exactly when its target has them. -/
theorem converged_iff_sameKeys (h : reconcile e relation existing incoming policy = .ok p) :
    Column.SameKeys e (wanted e existing p.drift) incoming
      ∧ (p.state = .converged ↔ Column.SameKeys e p.target incoming) := by
  refine ⟨?_, state_eq_converged_iff h⟩
  rw [drift_of_reconcile h]
  exact sameKeys_wanted

/-- A table in which one column is there under two spellings. -/
def invoices : List Column := [⟨"ID", "NUMBER", 1⟩, ⟨"\"id\"", "NUMBER", 2⟩]

/-- A load that brings a new column under two spellings. -/
def invoiceLoad : List Column :=
  [⟨"Total", "NUMBER", 1⟩, ⟨"id", "NUMBER", 2⟩, ⟨"TOTAL", "FLOAT", 3⟩]

/-- The plan that adds the first of them and keeps both spellings of the other column. -/
def invoicePlan : Plan :=
  running Dialect.ansi.engine "invoices" .appendNewColumns invoices
    (Drift.between Dialect.ansi.engine invoices invoiceLoad) [.add ⟨"Total", "NUMBER", 1⟩]

private theorem reconcile_invoices :
    reconcile Dialect.ansi.engine "invoices" invoices invoiceLoad .appendNewColumns
      = .ok invoicePlan := by
  decide +kernel

private theorem invoicePlan_state : invoicePlan.state = .converged := by
  decide +kernel

theorem converged_iff_sameKeys_invoices :
    reconcile Dialect.ansi.engine "invoices" invoices invoiceLoad .appendNewColumns
        = .ok invoicePlan
      ∧ invoicePlan.state = .converged
      ∧ Column.SameKeys Dialect.ansi.engine invoicePlan.target invoiceLoad :=
  ⟨reconcile_invoices, invoicePlan_state,
    (converged_iff_sameKeys reconcile_invoices).2.mp invoicePlan_state⟩

/-! ### What the target lacks and has too much -/

theorem newTo_appended (e : Engine) (existing incoming : List Column) :
    Column.newTo e (appended e existing incoming) incoming = [] := by
  -- numbering changes no key, so this is an append cut short after the last new column
  have hkeys : (Column.numberFrom existing.length (Column.newTo e existing incoming)).map (·.key e)
      = ((Column.newTo e existing incoming).take
          (Column.newTo e existing incoming).length).map (·.key e) := by
    rw [Column.map_key_numberFrom, List.take_length]
  rw [appended, Column.newTo_append_take _ hkeys, List.drop_length]

/-- A policy that adds columns leaves nothing new. -/
theorem newTo_target (h : reconcile e relation existing incoming policy = .ok p)
    (hadds : addsColumns policy = true) : Column.newTo e p.target incoming = [] := by
  cases policy with
  | ignore | fail => cases hadds
  | appendNewColumns => rw [target_append h, newTo_appended]
  | syncAllColumns =>
    rw [target_sync h, Column.newTo_eq_nil_iff]
    exact fun k => (sameKeys_synced e existing incoming k).mpr

/-- A policy that drops columns leaves nothing missing. -/
theorem missingFrom_target (h : reconcile e relation existing incoming policy = .ok p)
    (hdrops : dropsColumns policy = true) : Column.missingFrom e incoming p.target = [] := by
  cases policy with
  | ignore | appendNewColumns | fail => cases hdrops
  | syncAllColumns =>
    rw [target_sync h, Column.missingFrom_eq_nil_iff]
    exact fun k => (sameKeys_synced e existing incoming k).mp

/-- A policy that refuses drift has a plan only where there is none. -/
theorem sameKeys_target_of_fail (h : reconcile e relation existing incoming .fail = .ok p) :
    Column.SameKeys e p.target incoming := by
  have hkeys : Column.SameKeys e existing incoming := exists_reconcile_iff.mp ⟨p, h⟩ rfl
  rwa [target_of_reconcile h, operations_of_reconcile h]

/-! ### Planning again -/

/-- Where nothing is left that a policy acts on or refuses, planning finds nothing to do. -/
theorem exists_reconcile_at_rest (relation : String) {cs : List Column} (policy : Policy)
    (hadds : addsColumns policy = true → Column.newTo e cs incoming = [])
    (hdrops : dropsColumns policy = true → Column.missingFrom e incoming cs = [])
    (hfail : policy = .fail → Column.SameKeys e cs incoming) :
    ∃ p, reconcile e relation cs incoming policy = .ok p ∧ p.operations = [] ∧ p.target = cs := by
  obtain ⟨p, hp⟩ : ∃ p, reconcile e relation cs incoming policy = .ok p :=
    exists_reconcile_iff.mpr hfail
  have hops : p.operations = [] := by
    rw [operations_of_reconcile hp, List.append_eq_nil_iff]
    constructor
    · split
      · next h => rw [hadds h, List.map_nil]
      · rfl
    · split
      · next h => rw [hdrops h, List.map_nil]
      · rfl
  refine ⟨p, hp, hops, ?_⟩
  rw [target_of_reconcile hp, hops, Operation.applyAll_nil]

/-- A relation **rests** at its columns under a policy: planning finds nothing to do and leaves
the columns as they are, positions included. The state is what the plan makes of them. -/
def Rests (e : Engine) (relation : String) (incoming : List Column) (policy : Policy)
    (cs : List Column) (state : PlanState) : Prop :=
  ∃ p, reconcile e relation cs incoming policy = .ok p
    ∧ p.operations = [] ∧ p.target = cs ∧ p.state = state

theorem rests_of_sameKeys {cs : List Column} (h : Column.SameKeys e cs incoming)
    (policy : Policy) : Rests e relation incoming policy cs .converged := by
  obtain ⟨hnew, hmissing⟩ := Column.sameKeys_iff.mp h
  obtain ⟨p, hp, hops, htarget⟩ :=
    exists_reconcile_at_rest relation policy (fun _ => hnew) (fun _ => hmissing) fun _ => h
  refine ⟨p, hp, hops, htarget, ?_⟩
  rwa [state_eq_converged_iff hp, htarget]

/-- **Rest.** A relation that has the target of a plan rests under the policy of the plan, in the
state that the plan foresaw. A plan that converged leaves it at rest under every policy. -/
theorem target_rests (h : reconcile e relation existing incoming policy = .ok p) :
    Rests e relation incoming policy p.target p.state
      ∧ (p.state = .converged →
        ∀ policy', Rests e relation incoming policy' p.target .converged) := by
  constructor
  · -- the columns left as they are give the state too, for it looks at nothing else
    obtain ⟨again, hagain, hops, htarget⟩ :=
      exists_reconcile_at_rest relation policy (newTo_target h) (missingFrom_target h)
        fun hfail => sameKeys_target_of_fail (hfail ▸ h)
    exact ⟨again, hagain, hops, htarget, state_eq_of_target_eq h hagain htarget⟩
  · intro hconverged
    exact rests_of_sameKeys ((state_eq_converged_iff h).mp hconverged)

/-- The table has more columns than the load, and still there is no drift to refuse. -/
theorem target_rests_invoices :
    invoicePlan.state = .converged
      ∧ Rests Dialect.ansi.engine "invoices" invoiceLoad .appendNewColumns invoicePlan.target
        invoicePlan.state
      ∧ Rests Dialect.ansi.engine "invoices" invoiceLoad .fail invoicePlan.target .converged := by
  obtain ⟨hagain, hrests⟩ := target_rests reconcile_invoices
  exact ⟨invoicePlan_state, hagain, hrests invoicePlan_state .fail⟩

end Plan

end SchemaDrift
