import SchemaDrift.Proofs.Plan.Coverage
import SchemaDrift.Proofs.Reconciliation.Interleaving

/-!
# Interleaved reconciliations converge

Reconciliations of one relation that run together make their plans for columns that may be gone
when the plans are run. The names that the relation ends with depend on the policies alone, not
on the order of the steps (`Gathering.converges`):

* if one of the policies adds and drops columns, the relation ends with the keys of the load;
* otherwise, if one of them adds columns, with its own keys and those of the load;
* otherwise with its own keys.

The invariant has two halves. `Due` is about one reconciliation: whatever the others do, the
additions and drops that it has still to run are enough to make its policy true of the columns as
they are now. `Reached` is about the columns: their keys come from the relation as it was or from
the load, and none is lost without a policy that drops columns. Both rest on one observation:
every operation of every plan suits the load (`Operation.Suits`), so a key of the load, once there,
is there to stay.

A relation without columns counts as one that does not exist, and its plan is empty. It is seen
only if the load is empty too: a plan drops nothing before it has added everything.
-/

namespace SchemaDrift

/-! ### What one reconciliation has still to do -/

/-- The additions and drops that are **due** under a policy, given the columns as they are now. -/
structure Due (e : Engine) (incoming : List Column) (policy : Policy)
    (cs adds drops : List Column) : Prop where
  /-- Only keys of the load are added. -/
  wanted : ∀ k ∈ adds.map (·.key e), k ∈ incoming.map (·.key e)
  /-- Only keys of no column of the load are dropped. -/
  unwanted : ∀ k ∈ drops.map (·.key e), k ∉ incoming.map (·.key e)
  /-- Under a policy that adds columns every key of the load is there or will be added. -/
  adding : Plan.addsColumns policy = true →
    ∀ k ∈ incoming.map (·.key e), k ∈ cs.map (·.key e) ∨ k ∈ adds.map (·.key e)
  /-- Under a policy that drops columns every key that is there is one of the load or will be
  dropped. -/
  dropping : Plan.dropsColumns policy = true →
    ∀ k ∈ cs.map (·.key e), k ∈ incoming.map (·.key e) ∨ k ∈ drops.map (·.key e)
  /-- Other policies add nothing. -/
  adds_eq_nil : Plan.addsColumns policy = false → adds = []
  /-- Other policies drop nothing. -/
  drops_eq_nil : Plan.dropsColumns policy = false → drops = []

theorem Plan.addsColumns_of_dropsColumns {policy : Policy} (h : dropsColumns policy = true) :
    addsColumns policy = true := by
  cases policy with
  | syncAllColumns => rfl
  | ignore | appendNewColumns | fail => cases h

namespace Due

variable {e : Engine} {relation : String} {incoming cs adds drops : List Column} {policy : Policy}
  {c : Column}

/-- All operations of a plan are due when the plan is made. -/
theorem of_reconcile {p : Plan}
    (h : Plan.reconcile e relation cs incoming policy = .ok p) :
    ∃ adds drops, p.operations = adds.map .add ++ drops.map .drop
      ∧ Due e incoming policy cs adds drops := by
  refine ⟨if Plan.addsColumns policy then Column.newTo e cs incoming else [],
    if Plan.dropsColumns policy then Column.missingFrom e incoming cs else [], ?_, ?_⟩
  · rw [Plan.operations_of_reconcile h]
    congr 1 <;> split <;> rfl
  · refine ⟨?_, ?_, ?_, ?_, fun hadds => by rw [hadds]; rfl, fun hdrops => by rw [hdrops]; rfl⟩
    · intro k hk
      split at hk
      · exact (Column.mem_map_key_newTo.mp hk).1
      · cases hk
    · intro k hk
      split at hk
      · exact (Column.mem_map_key_missingFrom.mp hk).2
      · cases hk
    · intro hadds k hk
      rw [if_pos hadds, Column.mem_map_key_newTo]
      by_cases hmem : k ∈ cs.map (·.key e)
      · exact .inl hmem
      · exact .inr ⟨hk, hmem⟩
    · intro hdrops k hk
      rw [if_pos hdrops, Column.mem_map_key_missingFrom]
      by_cases hmem : k ∈ incoming.map (·.key e)
      · exact .inl hmem
      · exact .inr ⟨hk, hmem⟩

/-- Where neither relation nor load has a column nothing is due. -/
theorem nil (policy : Policy) : Due e [] policy [] [] [] where
  wanted _ hk := hk
  unwanted _ hk := absurd hk List.not_mem_nil
  adding _ _ hk := .inl hk
  dropping _ _ hk := .inl hk
  adds_eq_nil _ := rfl
  drops_eq_nil _ := rfl

/-- What is due stays due when another reconciliation runs an operation. -/
theorem applyTo {op : Operation} (h : Due e incoming policy cs adds drops)
    (hop : op.Suits e incoming) : Due e incoming policy (op.applyTo e cs) adds drops where
  wanted := h.wanted
  unwanted := h.unwanted
  adding hadds k hk := (h.adding hadds k hk).imp (hop.mem_applyTo hk) id
  dropping hdrops k hk := by
    -- a key that has come in meanwhile is one of the load and need not be dropped
    rcases hop.of_mem_applyTo hk with hold | hnew
    · exact h.dropping hdrops k hold
    · exact .inl hnew
  adds_eq_nil := h.adds_eq_nil
  drops_eq_nil := h.drops_eq_nil

theorem suits_add (h : Due e incoming policy cs (c :: adds) drops) :
    (Operation.add c).Suits e incoming :=
  h.wanted _ List.mem_cons_self

theorem suits_drop (h : Due e incoming policy cs adds (c :: drops)) :
    (Operation.drop c).Suits e incoming :=
  h.unwanted _ List.mem_cons_self

theorem addsColumns_of_cons (h : Due e incoming policy cs (c :: adds) drops) :
    Plan.addsColumns policy = true := by
  by_contra hadds
  cases h.adds_eq_nil (Bool.eq_false_iff.mpr hadds)

theorem dropsColumns_of_cons (h : Due e incoming policy cs adds (c :: drops)) :
    Plan.dropsColumns policy = true := by
  by_contra hdrops
  cases h.drops_eq_nil (Bool.eq_false_iff.mpr hdrops)

/-- An addition that has been run is no longer due. -/
theorem add (h : Due e incoming policy cs (c :: adds) drops) :
    Due e incoming policy ((Operation.add c).applyTo e cs) adds drops where
  wanted k hk := h.wanted k (List.mem_cons_of_mem _ hk)
  unwanted := h.unwanted
  adding hadds k hk := by
    rw [Operation.mem_map_key_applyTo_add, or_assoc, ← List.mem_cons]
    exact h.adding hadds k hk
  dropping := (h.applyTo h.suits_add).dropping
  adds_eq_nil hadds := by
    rw [h.addsColumns_of_cons] at hadds
    cases hadds
  drops_eq_nil := h.drops_eq_nil

/-- A drop that has been run is no longer due. -/
theorem drop (h : Due e incoming policy cs adds (c :: drops)) :
    Due e incoming policy ((Operation.drop c).applyTo e cs) adds drops where
  wanted := h.wanted
  unwanted k hk := h.unwanted k (List.mem_cons_of_mem _ hk)
  adding := (h.applyTo h.suits_drop).adding
  dropping hdrops k hk := by
    obtain ⟨hmem, hne⟩ := Operation.mem_map_key_applyTo_drop.mp hk
    refine (h.dropping hdrops k hmem).imp id fun hcons => ?_
    exact (List.mem_cons.mp hcons).resolve_left hne
  adds_eq_nil := h.adds_eq_nil
  drops_eq_nil hdrops := by
    rw [h.dropsColumns_of_cons] at hdrops
    cases hdrops

/-- When nothing is left to be added, a reconciliation with drops to run finds every key of the
load. -/
theorem mem_of_mem_incoming (h : Due e incoming policy cs [] (c :: drops)) :
    ∀ k ∈ incoming.map (·.key e), k ∈ cs.map (·.key e) := by
  intro k hk
  have hadds := Plan.addsColumns_of_dropsColumns h.dropsColumns_of_cons
  exact (h.adding hadds k hk).resolve_right List.not_mem_nil

end Due

/-! ### What the columns have become -/

/-- Columns that reconciliations under these policies may have **reached** from the columns that
a relation had. -/
structure Reached (e : Engine) (existing incoming : List Column) (policies : List Policy)
    (cs : List Column) : Prop where
  /-- Keys come in from the load only, and only under a policy that adds columns. -/
  within : ∀ k ∈ cs.map (·.key e), k ∈ existing.map (·.key e)
    ∨ (k ∈ incoming.map (·.key e) ∧ ∃ policy ∈ policies, Plan.addsColumns policy = true)
  /-- Keys are lost only under a policy that drops columns. -/
  kept : ∀ k ∈ existing.map (·.key e), k ∈ cs.map (·.key e)
    ∨ ∃ policy ∈ policies, Plan.dropsColumns policy = true
  /-- The relation runs out of columns only if the load has none. -/
  settled : cs = [] → incoming = []
  /-- No key comes to occur twice. -/
  distinct : (existing.map (·.key e)).Nodup → (cs.map (·.key e)).Nodup

namespace Reached

variable {e : Engine} {existing incoming cs : List Column} {policies : List Policy}
  {policy : Policy} {c : Column}

protected theorem refl (hne : existing ≠ []) : Reached e existing incoming policies existing where
  within _ hk := .inl hk
  kept _ hk := .inl hk
  settled hnil := absurd hnil hne
  distinct := id

theorem add (h : Reached e existing incoming policies cs) (hmem : policy ∈ policies)
    (hadds : Plan.addsColumns policy = true) (hc : (Operation.add c).Suits e incoming) :
    Reached e existing incoming policies ((Operation.add c).applyTo e cs) where
  within k hk := by
    rcases hc.of_mem_applyTo hk with hold | hnew
    · exact h.within k hold
    · exact .inr ⟨hnew, policy, hmem, hadds⟩
  kept k hk := (h.kept k hk).imp (fun hold => Operation.mem_map_key_applyTo_add.mpr (.inl hold)) id
  settled hnil := by
    have hkey : c.key e ∈ ((Operation.add c).applyTo e cs).map (·.key e) :=
      Operation.mem_map_key_applyTo_add.mpr (.inr rfl)
    rw [hnil] at hkey
    cases hkey
  distinct hnodup := Operation.nodup_map_key_applyTo _ (h.distinct hnodup)

theorem drop (h : Reached e existing incoming policies cs) (hmem : policy ∈ policies)
    (hdrops : Plan.dropsColumns policy = true) (hc : (Operation.drop c).Suits e incoming)
    (hall : ∀ k ∈ incoming.map (·.key e), k ∈ cs.map (·.key e)) :
    Reached e existing incoming policies ((Operation.drop c).applyTo e cs) where
  within k hk := h.within k (Operation.mem_map_key_applyTo_drop.mp hk).1
  kept _ _ := .inr ⟨policy, hmem, hdrops⟩
  settled hnil := by
    -- a column of the load is there before the drop, so it is there after it
    by_contra hne
    obtain ⟨d, hd⟩ := List.exists_mem_of_ne_nil _ hne
    have hkey := List.mem_map_of_mem (f := (·.key e)) hd
    have hstays := hc.mem_applyTo hkey (hall _ hkey)
    rw [hnil] at hstays
    cases hstays
  distinct hnodup := Operation.nodup_map_key_applyTo _ (h.distinct hnodup)

/-- A reconciliation that runs the next operation due keeps to what may be reached. -/
theorem of_due {op : Operation} {adds drops : List Column} {rest : List Operation}
    (h : Reached e existing incoming policies cs) (hmem : policy ∈ policies)
    (hdue : Due e incoming policy cs adds drops)
    (hnext : op :: rest = adds.map .add ++ drops.map .drop) :
    op.Suits e incoming ∧ Reached e existing incoming policies (op.applyTo e cs)
      ∧ ∃ adds' drops', rest = adds'.map .add ++ drops'.map .drop
        ∧ Due e incoming policy (op.applyTo e cs) adds' drops' := by
  cases adds with
  | cons c adds =>
    obtain ⟨rfl, rfl⟩ := List.cons.inj hnext
    exact ⟨hdue.suits_add, h.add hmem hdue.addsColumns_of_cons hdue.suits_add,
      adds, drops, rfl, hdue.add⟩
  | nil =>
    cases drops with
    | nil => cases hnext
    | cons c drops =>
      obtain ⟨rfl, rfl⟩ := List.cons.inj hnext
      exact ⟨hdue.suits_drop,
        h.drop hmem hdue.dropsColumns_of_cons hdue.suits_drop hdue.mem_of_mem_incoming,
        [], drops, rfl, hdue.drop⟩

end Reached

/-! ### All reconciliations together -/

namespace Progress

variable {s : Session} {r : Relation} {existing incoming cs : List Column} {policy : Policy}
  {policies : List Policy} {w w₀ : Warehouse} {p : Progress}

/-- A reconciliation is **sound** for the columns as they are now. Under way it has only to run
what is due, and only a refusal of the drift has made it fail. -/
def IsSound (e : Engine) (incoming cs : List Column) (policy : Policy) : Progress → Prop
  | .waiting => True
  | .running _ _ rest => ∃ adds drops, rest = adds.map .add ++ drops.map .drop
      ∧ Due e incoming policy cs adds drops
  | .failed _ => policy = .fail

theorem IsSound.applyTo {e : Engine} {op : Operation} (h : p.IsSound e incoming cs policy)
    (hop : op.Suits e incoming) : p.IsSound e incoming (op.applyTo e cs) policy := by
  cases p with
  | waiting => trivial
  | running plan ran rest =>
    obtain ⟨adds, drops, hrest, hdue⟩ := h
    exact ⟨adds, drops, hrest, hdue.applyTo hop⟩
  | failed cause => exact h

/-- A reconciliation that has read the columns is sound for them. -/
theorem isSound_ofFetched (hsettled : cs = [] → incoming = []) :
    (ofFetched s r incoming policy (.ok cs)).IsSound s.engine incoming cs policy := by
  by_cases hne : cs = []
  · subst hne
    rw [hsettled rfl]
    exact ⟨[], [], rfl, Due.nil policy⟩
  · rw [ofFetched, Session.planFor_of_ne_nil hne]
    cases hplan : Plan.reconcile s.engine r.qualifiedName cs incoming policy with
    | error o => exact Plan.policy_of_reconcile_error hplan
    | ok plan => exact Due.of_reconcile hplan

/-- **One step** of one reconciliation keeps to what may be reached, and leaves every
reconciliation sound. -/
theorem step_isSound (hengine : s.engine = w.engine) (herr : w.errors.find? r.qualifiedName = none)
    (hallows : ∀ op, w.Allows op) (hstored : w.columns.find? r.qualifiedName = some cs)
    (hmem : policy ∈ policies) (hreached : Reached s.engine existing incoming policies cs)
    (hsound : p.IsSound s.engine incoming cs policy) :
    ∃ cs' ops, Warehouse.Altered r cs' ops w (p.step s r incoming policy w).1
      ∧ Reached s.engine existing incoming policies cs'
      ∧ (p.step s r incoming policy w).2.IsSound s.engine incoming cs' policy
      ∧ ∀ policy' (q : Progress), q.IsSound s.engine incoming cs policy' →
        q.IsSound s.engine incoming cs' policy' := by
  have hunaltered := Warehouse.Altered.refl hstored
  match p with
  | .waiting =>
    -- the plan is made for these very columns, so all that they need is due
    refine ⟨cs, [], hunaltered, hreached, ?_, fun _ _ h => h⟩
    rw [step, Session.columnsIn_of_stored herr hstored]
    exact isSound_ofFetched hreached.settled
  | .running plan ran [] => exact ⟨cs, [], hunaltered, hreached, hsound, fun _ _ h => h⟩
  | .running plan ran (op :: rest) =>
    obtain ⟨adds, drops, hnext, hdue⟩ := hsound
    obtain ⟨hsuits, hreached', hrest⟩ := hreached.of_due hmem hdue hnext
    obtain ⟨w', hw', halt⟩ := Warehouse.execute_of_allows hstored (hallows op)
    rw [← hengine] at halt
    rw [step, hw']
    exact ⟨op.applyTo s.engine cs, [op], halt, hreached', hrest, fun _ _ h => h.applyTo hsuits⟩
  | .failed cause => exact ⟨cs, [], hunaltered, hreached, hsound, fun _ _ h => h⟩

end Progress

namespace Gathering

variable {s : Session} {r : Relation} {existing incoming : List Column} {policies : List Policy}
  {w : Warehouse} {g : Gathering}

/-- The **invariant**: the warehouse has been altered in the relation alone, to columns that may
be reached and for which every reconciliation is sound. -/
structure Invariant (s : Session) (r : Relation) (existing incoming : List Column)
    (policies : List Policy) (w : Warehouse) (g : Gathering) : Prop where
  policies_eq : g.participants.map (·.policy) = policies
  reached : ∃ cs ops, Warehouse.Altered r cs ops w g.warehouse
    ∧ Reached s.engine existing incoming policies cs
    ∧ ∀ p ∈ g.participants, p.progress.IsSound s.engine incoming cs p.policy

theorem invariant_start (h : w.Holds r existing) :
    Invariant s r existing incoming policies w (start w policies) where
  policies_eq := by
    rw [start, List.map_map]
    exact List.map_id policies
  reached := by
    refine ⟨existing, [], Warehouse.Altered.refl h.2.1, Reached.refl h.2.2, fun p hp => ?_⟩
    obtain ⟨policy, -, rfl⟩ := List.mem_map.mp hp
    trivial

/-- A turn keeps the invariant. -/
theorem Invariant.turn (h : Invariant s r existing incoming policies w g)
    (hengine : s.engine = w.engine) (herr : w.errors.find? r.qualifiedName = none)
    (hallows : ∀ op, w.Allows op) (i : Nat) :
    Invariant s r existing incoming policies w (turn s r incoming g i) := by
  rw [Gathering.turn]
  split
  · exact h
  · next p hp =>
    obtain ⟨cs, ops, halt, hreached, hsound⟩ := h.reached
    have hpolicy : p.policy ∈ policies := by
      rw [← h.policies_eq]
      exact List.mem_map_of_mem (List.mem_of_getElem? hp)
    have hengine' : s.engine = g.warehouse.engine := hengine.trans halt.engine_eq.symm
    have herr' : g.warehouse.errors.find? r.qualifiedName = none := halt.errors_eq ▸ herr
    obtain ⟨cs', ops', halt', hreached', hnext, hothers⟩ :=
      Progress.step_isSound hengine' herr' (fun op => (halt.allows_iff op).mpr (hallows op))
        halt.stored hpolicy hreached (hsound p (List.mem_of_getElem? hp))
    refine ⟨?_, cs', ops ++ ops', halt.trans halt', hreached', fun q hq => ?_⟩
    · obtain ⟨hi, hget⟩ := List.getElem?_eq_some_iff.mp hp
      have hself : (g.participants.map (·.policy)).set i p.policy
          = g.participants.map (·.policy) := by
        rw [← hget, ← List.map_set, List.set_getElem_self]
      rw [List.map_set, hself, h.policies_eq]
    · rcases List.mem_or_eq_of_mem_set hq with hold | rfl
      · exact hothers q.policy q.progress (hsound q hold)
      · exact hnext

/-- Every schedule keeps the invariant. -/
theorem Invariant.after (h : Invariant s r existing incoming policies w g)
    (hengine : s.engine = w.engine) (herr : w.errors.find? r.qualifiedName = none)
    (hallows : ∀ op, w.Allows op) (schedule : List Nat) :
    Invariant s r existing incoming policies w (after s r incoming g schedule) := by
  induction schedule generalizing g with
  | nil => exact h
  | cons i schedule ih =>
    rw [after_cons]
    exact ih (h.turn hengine herr hallows i)

/-! ### When all reconciliations are over -/

/-- A reconciliation that is over has nothing due, unless it has failed. -/
theorem Invariant.due_nil (h : Invariant s r existing incoming policies w g) (hover : g.IsOver) :
    ∃ cs, g.warehouse.columns.find? r.qualifiedName = some cs
      ∧ Reached s.engine existing incoming policies cs
      ∧ ∀ policy ∈ policies, policy ≠ .fail → Due s.engine incoming policy cs [] [] := by
  obtain ⟨cs, ops, halt, hreached, hsound⟩ := h.reached
  refine ⟨cs, halt.stored, hreached, fun policy hpolicy hfail => ?_⟩
  rw [← h.policies_eq] at hpolicy
  obtain ⟨⟨policy, progress⟩, hp, rfl⟩ := List.mem_map.mp hpolicy
  have hprogress := hsound _ hp
  have hresult := hover _ hp
  match progress with
  | .waiting => cases hresult
  | .running plan ran [] =>
    obtain ⟨adds, drops, hnil, hdue⟩ := hprogress
    obtain ⟨hadds, hdrops⟩ := List.append_eq_nil_iff.mp hnil.symm
    rwa [List.map_eq_nil_iff.mp hadds, List.map_eq_nil_iff.mp hdrops] at hdue
  | .running plan ran (op :: rest) => cases hresult
  | .failed cause => exact absurd hprogress hfail

/-- Whether a key is one of those that reconciliations under these policies **settle on**. -/
def SettlesOn (e : Engine) (existing incoming : List Column) (policies : List Policy)
    (k : String) : Prop :=
  if .syncAllColumns ∈ policies then k ∈ incoming.map (·.key e)
  else if .appendNewColumns ∈ policies then
    k ∈ existing.map (·.key e) ∨ k ∈ incoming.map (·.key e)
  else k ∈ existing.map (·.key e)

private theorem settlesOn_iff {e : Engine} {cs : List Column} {k : String}
    (h : Reached e existing incoming policies cs)
    (hdue : ∀ policy ∈ policies, policy ≠ .fail → Due e incoming policy cs [] []) :
    k ∈ cs.map (·.key e) ↔ SettlesOn e existing incoming policies k := by
  rw [SettlesOn]
  split
  · next hsync =>
    -- nothing is due any more under this policy: what it had to add is there, what it had to
    -- drop is gone
    have hdone := hdue _ hsync (by decide)
    constructor
    · intro hk
      exact (hdone.dropping rfl k hk).resolve_right List.not_mem_nil
    · intro hk
      exact (hdone.adding rfl k hk).resolve_right List.not_mem_nil
  · next hsync =>
    have hkept : k ∈ existing.map (·.key e) → k ∈ cs.map (·.key e) := by
      intro hk
      refine (h.kept k hk).resolve_right ?_
      rintro ⟨policy, hpolicy, hdrops⟩
      cases policy with
      | syncAllColumns => exact hsync hpolicy
      | ignore | appendNewColumns | fail => cases hdrops
    split
    · next happend =>
      have hdone := hdue _ happend (by decide)
      constructor
      · intro hk
        exact (h.within k hk).imp id And.left
      · rintro (hold | hnew)
        · exact hkept hold
        · exact (hdone.adding rfl k hnew).resolve_right List.not_mem_nil
    · next happend =>
      refine ⟨fun hk => (h.within k hk).resolve_right ?_, hkept⟩
      rintro ⟨-, policy, hpolicy, hadds⟩
      cases policy with
      | syncAllColumns => exact hsync hpolicy
      | appendNewColumns => exact happend hpolicy
      | ignore | fail => cases hadds

/-- **Convergence.** In whatever order reconciliations of one relation with one load take their
steps, once all are over the keys of the relation are those that their policies settle on. No
key occurs twice unless one did before. -/
theorem converges (hengine : s.engine = w.engine) (hholds : w.Holds r existing)
    (hallows : ∀ name, w.statementErrors.find? name = none) (schedule : List Nat)
    (hover : (after s r incoming (start w policies) schedule).IsOver) :
    ∃ final, (after s r incoming (start w policies) schedule).warehouse.columns.find?
        r.qualifiedName = some final
      ∧ (∀ k, k ∈ final.map (·.key s.engine) ↔ SettlesOn s.engine existing incoming policies k)
      ∧ ((existing.map (·.key s.engine)).Nodup → (final.map (·.key s.engine)).Nodup) := by
  have hinvariant : Invariant s r existing incoming policies w _ :=
    (invariant_start hholds).after hengine hholds.1 (fun op => hallows op.column.name) schedule
  obtain ⟨final, hstored, hreached, hdue⟩ := hinvariant.due_nil hover
  exact ⟨final, hstored, fun k => settlesOn_iff hreached hdue, hreached.distinct⟩

/-- A warehouse with a table of two columns. -/
def ledger : Warehouse :=
  Warehouse.addColumns {} .orders [⟨"id", "INT64", 1⟩, ⟨"note", "STRING", 2⟩]

/-- Five reconciliations of the table, two of which add and drop columns. The plans are all made
before anything is run, the third refuses the drift, and most operations come too late to change
anything. -/
def ledgerAfter (schedule : List Nat) : Gathering :=
  after .plain .orders [⟨"id", "INT64", 1⟩, ⟨"email", "STRING", 2⟩]
    (start ledger [.appendNewColumns, .syncAllColumns, .fail, .ignore, .syncAllColumns]) schedule

theorem converges_ledger :
    (ledgerAfter [0, 1, 4, 2, 3, 1, 4, 1, 0, 4]).IsOver
      ∧ ∃ final, (ledgerAfter [0, 1, 4, 2, 3, 1, 4, 1, 0, 4]).warehouse.columns.find? "orders"
          = some final
        ∧ ∀ k, k ∈ final.map (·.key Session.plain.engine)
          ↔ k ∈ ["id", "email"].map Session.plain.engine.columnKey := by
  have hholds : ledger.Holds .orders [⟨"id", "INT64", 1⟩, ⟨"note", "STRING", 2⟩] :=
    ⟨by decide, by decide, List.cons_ne_nil _ _⟩
  have hover : (ledgerAfter [0, 1, 4, 2, 3, 1, 4, 1, 0, 4]).IsOver := by
    rw [IsOver]
    decide
  obtain ⟨final, hstored, hkeys, -⟩ := converges rfl hholds (fun _ => rfl) _ hover
  exact ⟨hover, final, hstored, hkeys⟩

end Gathering

end SchemaDrift
