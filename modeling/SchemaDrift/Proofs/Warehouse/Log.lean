import SchemaDrift.Proofs.Operation.Runs
import SchemaDrift.Proofs.Reconciliation.Execution
import SchemaDrift.Proofs.Warehouse.Listings

/-!
# The columns and the log

A warehouse keeps the columns of its relations and, apart from them, a log of the operations that
were run. This is about what the two have to do with each other, whatever is done to a warehouse:
relations are given columns and given other columns later, errors are set, single operations are
run and refused, relations are reconciled by sessions that may well follow other rules than the
warehouse.

* `exists_perform_reconcile_eq`: a reconciliation, finished or interrupted, is some statements on
  its relation, one after another.
* `Follows`: while no call gives a relation columns, its columns are what the operations that the
  log gains for it make of the columns it had. One statement keeps this (`follows_execute`), hence
  any number of calls (`exists_follows_after`).
* `stored_columns_follow_log`: so the columns of a relation are those it was last given, changed by
  the operations logged for it since then, and are always numbered from one. A statement that is
  refused is not in the log and changes nothing.

The operations of a log are those of one relation name: relations that print the same name share
their columns, and share their part of the log.
-/

namespace SchemaDrift

namespace Warehouse

/-! ### Calls -/

/-- A **call** on a warehouse. -/
inductive Call where
  | addRelation (r : Relation) (cs : List Column)
  | addColumns (r : Relation) (cs : List Column)
  | addError (object : String) (e : FetchError)
  | addStatementError (column : String) (e : FetchError)
  | execute (r : Relation) (op : Operation)
  | reconcile (s : Session) (r : Relation) (incoming : List Column) (policy : Policy)

namespace Call

/-- The warehouse after a call. A statement that is refused leaves it as it is. -/
def perform (w : Warehouse) : Call → Warehouse
  | .addRelation r cs => w.addRelation r cs
  | .addColumns r cs => w.addColumns r cs
  | .addError object e => w.addError object e
  | .addStatementError column e => w.addStatementError column e
  | .execute r op =>
    match w.execute r op with
    | .ok w' => w'
    | .error _ => w
  | .reconcile s r incoming policy => (s.reconcile w r incoming policy).1

/-- The columns that a call **gives** the relation of a name. -/
def given? (name : String) : Call → Option (List Column)
  | .addRelation r cs | .addColumns r cs => if r.qualifiedName = name then some cs else none
  | .addError _ _ | .addStatementError _ _ | .execute _ _ | .reconcile _ _ _ _ => none

end Call

/-- The warehouse after several calls. -/
def after (w : Warehouse) (calls : List Call) : Warehouse := calls.foldl Call.perform w

theorem after_cons (w : Warehouse) (call : Call) (calls : List Call) :
    after w (call :: calls) = after (call.perform w) calls := rfl

theorem after_append (w : Warehouse) (calls calls' : List Call) :
    after w (calls ++ calls') = after (after w calls) calls' := List.foldl_append

/-- The operations of a log that were run on the relation of a name. -/
def operationsOn (name : String) (log : List (String × Operation)) : List Operation :=
  (log.filter fun entry => entry.1 = name).map (·.2)

theorem operationsOn_append (name : String) (log log' : List (String × Operation)) :
    operationsOn name (log ++ log') = operationsOn name log ++ operationsOn name log' := by
  rw [operationsOn, List.filter_append, List.map_append, operationsOn, operationsOn]

/-! ### Following the log -/

variable {w w' w'' : Warehouse} {name : String} {log log' : List (String × Operation)}

/-- The columns of a relation have **followed** what the log has gained. -/
structure Follows (name : String) (log : List (String × Operation)) (w w' : Warehouse) :
    Prop where
  engine_eq : w'.engine = w.engine
  executed_eq : w'.executed = w.executed ++ log
  columns_eq : w'.columns.find? name
    = (w.columns.find? name).map fun cs => Operation.applyAll w.engine cs (operationsOn name log)

/-- Where the log has gained nothing the columns are what they were. -/
theorem follows_of_eq (hengine : w'.engine = w.engine) (hexecuted : w'.executed = w.executed)
    (hcolumns : w'.columns = w.columns) : Follows name [] w w' where
  engine_eq := hengine
  executed_eq := by rw [hexecuted, List.append_nil]
  columns_eq := by
    rw [hcolumns]
    cases w.columns.find? name <;> rfl

protected theorem Follows.refl (name : String) (w : Warehouse) : Follows name [] w w :=
  follows_of_eq rfl rfl rfl

protected theorem Follows.trans (h : Follows name log w w') (h' : Follows name log' w' w'') :
    Follows name (log ++ log') w w'' where
  engine_eq := h'.engine_eq.trans h.engine_eq
  executed_eq := by rw [h'.executed_eq, h.executed_eq, List.append_assoc]
  columns_eq := by
    rw [h'.columns_eq, h.columns_eq, Option.map_map, h.engine_eq, operationsOn_append]
    congr 1
    funext cs
    exact (Operation.applyAll_append w.engine cs _ _).symm

/-- A statement that is run is logged, and its relation has followed it. -/
theorem follows_execute {r : Relation} {op : Operation} (h : w.execute r op = .ok w') :
    Follows name [(r.qualifiedName, op)] w w' := by
  rw [execute] at h
  split at h
  · cases h
  · split at h
    · cases h
    · next cs hstored =>
      obtain rfl := Except.ok.inj h
      refine ⟨rfl, rfl, ?_⟩
      by_cases hname : r.qualifiedName = name
      · have hops : operationsOn name [(r.qualifiedName, op)] = [op] := by
          simp [operationsOn, hname]
        rw [hops, ← hname, Dictionary.find?_insert, if_pos rfl, hstored]
        rfl
      · have hops : operationsOn name [(r.qualifiedName, op)] = [] := by
          simp [operationsOn, hname]
        rw [hops, Dictionary.find?_insert, if_neg (Ne.symm hname)]
        exact (Follows.refl name w).columns_eq

theorem exists_follows_perform_execute (name : String) (w : Warehouse) (r : Relation)
    (op : Operation) :
    ∃ log, Follows name log w ((Call.execute r op).perform w) := by
  rw [Call.perform]
  split
  · next w' hrun => exact ⟨_, follows_execute hrun⟩
  · exact ⟨[], Follows.refl name w⟩

theorem exists_follows_after_executes (w : Warehouse) (r : Relation) (ops : List Operation) :
    ∃ log, Follows name log w (after w (ops.map (Call.execute r))) := by
  induction ops generalizing w with
  | nil => exact ⟨[], Follows.refl name w⟩
  | cons op ops ih =>
    obtain ⟨log, hlog⟩ := exists_follows_perform_execute name w r op
    obtain ⟨log', hlog'⟩ := ih ((Call.execute r op).perform w)
    exact ⟨log ++ log', hlog.trans hlog'⟩

/-! ### Reconciliations are statements -/

/-- A run has done what its statements up to the place where it stops do one by one. -/
theorem exists_after_eq_runFrom (r : Relation) (i : Nat) (w : Warehouse) (ops : List Operation) :
    ∃ k, (runFrom r i w ops).1 = after w ((ops.take k).map (Call.execute r)) := by
  induction ops generalizing i w with
  | nil => exact ⟨0, rfl⟩
  | cons op ops ih =>
    rw [runFrom]
    split
    · next w' hrun =>
      obtain ⟨k, hk⟩ := ih (i + 1) w'
      refine ⟨k + 1, ?_⟩
      rw [hk, List.take_succ_cons, List.map_cons, after_cons, Call.perform, hrun]
    · exact ⟨0, rfl⟩

/-- A reconciliation does to a warehouse what some statements on its relation do one by one, so
every warehouse seen while it is at work is one that statements lead to. -/
theorem exists_perform_reconcile_eq (s : Session) (w : Warehouse) (r : Relation)
    (incoming : List Column) (policy : Policy) :
    ∃ ops : List Operation, (Call.reconcile s r incoming policy).perform w
      = after w (ops.map (Call.execute r)) := by
  rw [Call.perform, Session.reconcile]
  cases Session.columnsIn w r with
  | error e => exact ⟨[], rfl⟩
  | ok existing =>
    rw [Session.reconcileFetched]
    cases s.planFor r existing incoming policy with
    | error o => exact ⟨[], rfl⟩
    | ok plan =>
      obtain ⟨k, hk⟩ := exists_after_eq_runFrom r 0 w plan.operations
      exact ⟨plan.operations.take k, hk⟩

/-! ### Calls that give columns, and those that do not -/

/-- Listing a relation changes nothing but the listings. -/
theorem list_eq (w : Warehouse) (r : Relation) :
    w.list r = { w with listings := (w.list r).listings } := by
  rw [list]
  cases r.schemaRef? <;> rfl

theorem columns_list (w : Warehouse) (r : Relation) : (w.list r).columns = w.columns := by
  rw [list_eq]

/-- A call that gives a relation columns replaces those it had, and is not logged. -/
theorem perform_of_given? {call : Call} {given : List Column} (h : call.given? name = some given) :
    (call.perform w).columns.find? name = some (Column.number given)
      ∧ (call.perform w).executed = w.executed ∧ (call.perform w).engine = w.engine := by
  have hgives : ∀ (w : Warehouse) (r : Relation) (cs : List Column),
      (if r.qualifiedName = name then some cs else none) = some given →
      (w.addColumns r cs).columns.find? name = some (Column.number given) := by
    intro w r cs hcs
    obtain ⟨hname, hsome⟩ := Option.ite_none_right_eq_some.mp hcs
    obtain rfl := Option.some.inj hsome
    obtain rfl := hname
    rw [addColumns, Dictionary.find?_insert, if_pos rfl]
  cases call with
  | addRelation r cs =>
    refine ⟨hgives (w.list r) r cs h, ?_, ?_⟩ <;> rw [Call.perform, addRelation, list_eq] <;> rfl
  | addColumns r cs => exact ⟨hgives w r cs h, rfl, rfl⟩
  | addError | addStatementError | execute | reconcile => cases h

/-- After any other call the columns of the relation have followed the log. -/
theorem exists_follows_perform {call : Call} (h : call.given? name = none) :
    ∃ log, Follows name log w (call.perform w) := by
  have hother : ∀ (w' : Warehouse) (r : Relation) (cs : List Column),
      (if r.qualifiedName = name then some cs else none) = none → w'.columns = w.columns →
      w'.engine = w.engine → w'.executed = w.executed → Follows name [] w (w'.addColumns r cs) := by
    intro w' r cs hname hcolumns hengine hexecuted
    have hne : name ≠ r.qualifiedName := by
      rintro rfl
      simp at hname
    refine ⟨hengine, by rw [List.append_nil]; exact hexecuted, ?_⟩
    rw [addColumns, Dictionary.find?_insert, if_neg hne, hcolumns]
    exact (Follows.refl name w).columns_eq
  cases call with
  | addRelation r cs =>
    refine ⟨[], hother (w.list r) r cs h (columns_list w r) ?_ ?_⟩ <;> rw [list_eq]
  | addColumns r cs => exact ⟨[], hother w r cs h rfl rfl rfl⟩
  | addError | addStatementError => exact ⟨[], follows_of_eq rfl rfl rfl⟩
  | execute r op => exact exists_follows_perform_execute name w r op
  | reconcile s r incoming policy =>
    obtain ⟨ops, hops⟩ := exists_perform_reconcile_eq s w r incoming policy
    rw [hops]
    exact exists_follows_after_executes w r ops

theorem exists_follows_after {calls : List Call} (h : ∀ call ∈ calls, call.given? name = none) :
    ∃ log, Follows name log w (after w calls) := by
  induction calls generalizing w with
  | nil => exact ⟨[], Follows.refl name w⟩
  | cons call calls ih =>
    obtain ⟨log, hlog⟩ := exists_follows_perform (w := w) (h call List.mem_cons_self)
    obtain ⟨log', hlog'⟩ :=
      ih (w := call.perform w) fun call' hcall' => h call' (List.mem_cons_of_mem _ hcall')
    exact ⟨log ++ log', hlog.trans hlog'⟩

/-! ### The columns a relation was last given -/

/-- The columns that calls **last gave** the relation of a name, and the calls before. -/
def LastGiven (name : String) (calls before : List Call) (given : List Column) : Prop :=
  ∃ call since, calls = before ++ call :: since ∧ call.given? name = some given
    ∧ ∀ call' ∈ since, call'.given? name = none

theorem exists_lastGiven_or (name : String) (calls : List Call) :
    (∃ before given, LastGiven name calls before given)
      ∨ ∀ call ∈ calls, call.given? name = none := by
  induction calls with
  | nil => exact .inr fun _ h => absurd h List.not_mem_nil
  | cons call calls ih =>
    rcases ih with ⟨before, given, last, since, rfl, hlast, hsince⟩ | hnone
    · exact .inl ⟨call :: before, given, last, since, rfl, hlast, hsince⟩
    · cases hcall : call.given? name with
      | some given => exact .inl ⟨[], given, call, calls, rfl, hcall, hnone⟩
      | none => exact .inr (List.forall_mem_cons.mpr ⟨hcall, hnone⟩)

theorem engine_after (w : Warehouse) (calls : List Call) : (after w calls).engine = w.engine := by
  induction calls generalizing w with
  | nil => rfl
  | cons call calls ih =>
    rw [after_cons, ih]
    cases hcall : call.given? "" with
    | some given => exact (perform_of_given? hcall).2.2
    | none =>
      obtain ⟨log, hlog⟩ := exists_follows_perform (w := w) hcall
      exact hlog.engine_eq

/-- What a relation was last given has since been changed by what was logged for it. -/
theorem LastGiven.stored {calls before : List Call} {given : List Column}
    (h : LastGiven name calls before given) :
    ∃ log, (after w calls).executed = (after w before).executed ++ log
      ∧ (after w calls).columns.find? name
        = some (Operation.applyAll w.engine (Column.number given) (operationsOn name log)) := by
  obtain ⟨call, since, rfl, hcall, hsince⟩ := h
  obtain ⟨hstored, hexecuted, hengine⟩ := perform_of_given? (w := after w before) hcall
  obtain ⟨log, hlog⟩ := exists_follows_after (w := call.perform (after w before)) hsince
  refine ⟨log, ?_, ?_⟩ <;> rw [after_append, after_cons]
  · rw [hlog.executed_eq, hexecuted]
  · rw [hlog.columns_eq, hstored, hengine, engine_after]
    rfl

/-- What a relation was never given it does not have. -/
theorem find?_columns_after_fresh {engine : Engine} {isUnreachable : Bool} {title : String}
    {calls : List Call} (h : ∀ call ∈ calls, call.given? name = none) :
    (after (fresh engine title isUnreachable) calls).columns.find? name = none := by
  obtain ⟨log, hlog⟩ := exists_follows_after (w := fresh engine title isUnreachable) h
  rw [hlog.columns_eq]
  rfl

/-! ### Statements that are refused -/

/-- A statement is refused for the error set for its column, or for want of its relation. -/
theorem execute_eq_error_iff {r : Relation} {op : Operation} {err : FetchError} :
    w.execute r op = .error err
      ↔ w.statementErrors.find? op.column.name = some err
        ∨ (w.statementErrors.find? op.column.name = none
          ∧ w.columns.find? r.qualifiedName = none
          ∧ err = ⟨.objectNotFound, r.qualifiedName⟩) := by
  rw [execute]
  cases w.statementErrors.find? op.column.name <;> cases w.columns.find? r.qualifiedName <;>
    simp [eq_comm]

/-- **The columns follow the log.** After any calls on a warehouse that held nothing, the columns
stored for a relation are those it was last given, numbered from one, then changed by the
operations that the log has gained for it since. Their positions count from one, and no key occurs
twice unless one did in what was given. A statement that is then refused, which happens for an
error set for its column or for want of the relation, changes neither columns nor log. -/
theorem stored_columns_follow_log (engine : Engine) (title : String) (isUnreachable : Bool)
    (calls : List Call) :
    let w := after (fresh engine title isUnreachable) calls
    (∀ name cs, w.columns.find? name = some cs →
      ∃ before given log, LastGiven name calls before given
        ∧ w.executed = (after (fresh engine title isUnreachable) before).executed ++ log
        ∧ cs = Operation.applyAll engine (Column.number given) (operationsOn name log)
        ∧ cs.map (·.ordinal) = List.range' 1 cs.length
        ∧ ((given.map (·.key engine)).Nodup → (cs.map (·.key engine)).Nodup))
    ∧ (∀ name, (∃ call ∈ calls, (call.given? name).isSome) → ∃ cs, w.columns.find? name = some cs)
    ∧ ∀ r op err, w.execute r op = .error err →
      (w.statementErrors.find? op.column.name = some err
        ∨ w.columns.find? r.qualifiedName = none)
      ∧ ((Call.execute r op).perform w).columns = w.columns
      ∧ ((Call.execute r op).perform w).executed = w.executed := by
  intro w
  refine ⟨fun name cs hcs => ?_, fun name hgiven => ?_, fun r op err herr => ?_⟩
  · rcases exists_lastGiven_or name calls with ⟨before, given, hlast⟩ | hnone
    · obtain ⟨log, hexecuted, hstored⟩ : ∃ log,
          w.executed = (after (fresh engine title isUnreachable) before).executed ++ log
            ∧ w.columns.find? name
              = some (Operation.applyAll engine (Column.number given) (operationsOn name log)) :=
        hlast.stored
      obtain rfl := Option.some.inj (hcs.symm.trans hstored)
      have hnumbered := Operation.number_applyAll (e := engine) (operationsOn name log)
        (Column.number_number given)
      refine ⟨before, given, log, hlast, hexecuted, rfl,
        Column.map_ordinal_of_number_eq hnumbered, fun hnodup => ?_⟩
      refine Operation.nodup_map_key_applyAll _ ?_
      rwa [Column.map_key_number]
    · rw [find?_columns_after_fresh hnone] at hcs
      cases hcs
  · rcases exists_lastGiven_or name calls with ⟨before, given, hlast⟩ | hnone
    · obtain ⟨log, -, hstored⟩ := hlast.stored (w := fresh engine title isUnreachable)
      exact ⟨_, hstored⟩
    · obtain ⟨call, hcall, hsome⟩ := hgiven
      rw [hnone call hcall] at hsome
      cases hsome
  · refine ⟨?_, ?_, ?_⟩
    · exact (execute_eq_error_iff.mp herr).imp id fun h => h.2.1
    · rw [Call.perform, herr]
    · rw [Call.perform, herr]

/-- A table is given two columns, one more is added, and a session that tells names apart by case
reconciles it on a warehouse that does not. The drop of `id` then takes the only column of that
key, for the addition of `ID` before it has changed nothing. -/
def caseBlindCalls : List Call :=
  [.addColumns .orders [⟨"total", "FLOAT64", 1⟩],
    .addRelation .orders [⟨"id", "INT64", 7⟩, ⟨"note", "STRING", 9⟩],
    .addStatementError "memo" ⟨.permissionDenied, "read only"⟩,
    .execute .orders (.add ⟨"email", "STRING", 1⟩),
    .execute .orders (.add ⟨"memo", "STRING", 1⟩),
    .reconcile ⟨Dialect.bigQuery.engine, .all, .empty .preserve⟩ .orders
      [⟨"ID", "INT64", 1⟩, ⟨"note", "STRING", 2⟩, ⟨"email", "STRING", 3⟩] .syncAllColumns]

/-- The warehouse after these calls. -/
def caseBlind : Warehouse := after (fresh Dialect.ansi.engine "memory" false) caseBlindCalls

theorem stored_columns_follow_log_caseBlind :
    caseBlind.columns.find? "orders" = some [⟨"note", "STRING", 1⟩, ⟨"email", "STRING", 2⟩]
      ∧ (∃ before given log, LastGiven "orders" caseBlindCalls before given
        ∧ caseBlind.executed
          = (after (fresh Dialect.ansi.engine "memory" false) before).executed ++ log
        ∧ [⟨"note", "STRING", 1⟩, ⟨"email", "STRING", 2⟩]
          = Operation.applyAll Dialect.ansi.engine (Column.number given)
              (operationsOn "orders" log))
      ∧ caseBlind.execute .orders (.add ⟨"memo", "STRING", 1⟩)
        = .error ⟨.permissionDenied, "read only"⟩
      ∧ ((Call.execute .orders (.add ⟨"memo", "STRING", 1⟩)).perform caseBlind).executed
        = caseBlind.executed := by
  obtain ⟨hfollows, -, hrefused⟩ :=
    stored_columns_follow_log Dialect.ansi.engine "memory" false caseBlindCalls
  have hstored : caseBlind.columns.find? "orders"
      = some [⟨"note", "STRING", 1⟩, ⟨"email", "STRING", 2⟩] := by
    decide +kernel
  have herror : caseBlind.execute .orders (.add ⟨"memo", "STRING", 1⟩)
      = .error ⟨.permissionDenied, "read only"⟩ := rfl
  obtain ⟨before, given, log, hlast, hexecuted, hcolumns, -⟩ := hfollows "orders" _ hstored
  exact ⟨hstored, ⟨before, given, log, hlast, hexecuted, hcolumns⟩, herror,
    (hrefused _ _ _ herror).2.2⟩

end Warehouse

end SchemaDrift
