import Mathlib.Data.List.Forall2
import SchemaDrift.Listing.Contents

/-!
# What a listing says of its rows

Two readers go through the rows of a listing. One makes relations of them, the other warnings
about kinds that are not known. Each reads the cells for itself, so it has to be shown that they
speak of the same things:

* `Row.classify_eq_ok_iff`: a row **lists** the relation that its cells tell of, and some relation
  exactly when its name is not blank (`Row.exists_lists_iff`). `relationsOf_eq_ok_iff` says this of
  all rows, in their order.
* `Row.Lists.qualifiedName_eq`: a row and the relation that it lists have the same dotted name.
* `reportedRelations_eq`: the reader of warnings finds the same relations, or fails in the same way.
* `listing_paths_agree`: what the two readers say together, row by row.
-/

namespace SchemaDrift

/-! ### Steps over a list -/

section Steps

variable {ε α β : Type} {f : α → Except ε β}

/-- A run over a list gives what each step gives. -/
theorem mapM_eq_ok_iff {l : List α} {r : List β} :
    l.mapM f = .ok r ↔ List.Forall₂ (fun a b => f a = .ok b) l r := by
  induction l generalizing r with
  | nil =>
    rw [List.forall₂_nil_left_iff, List.mapM_nil]
    exact ⟨fun h => (Except.ok.inj h).symm, fun h => congrArg Except.ok h.symm⟩
  | cons a l ih =>
    rw [List.mapM_cons, List.forall₂_cons_left_iff]
    cases ha : f a with
    | error e => exact ⟨fun h => (by cases h), fun ⟨b, r', hb, _⟩ => (by cases hb)⟩
    | ok b =>
      cases hl : l.mapM f with
      | error e =>
        refine ⟨fun h => (by cases h), fun ⟨b', r', _, hr', _⟩ => ?_⟩
        rw [← ih, hl] at hr'
        cases hr'
      | ok r' =>
        have hrest := ih.mp hl
        refine ⟨fun h => ⟨b, r', rfl, hrest, (Except.ok.inj h).symm⟩, ?_⟩
        rintro ⟨b', r'', hb, hr'', rfl⟩
        obtain rfl := Except.ok.inj hb
        obtain rfl := Except.ok.inj (hl.symm.trans (ih.mpr hr''))
        rfl

/-- A run over a list fails as one of its steps does. -/
theorem exists_mem_of_mapM_eq_error {l : List α} {e : ε} (h : l.mapM f = .error e) :
    ∃ a ∈ l, f a = .error e := by
  induction l with
  | nil => cases h
  | cons a l ih =>
    rw [List.mapM_cons] at h
    cases ha : f a with
    | error e' =>
      rw [ha] at h
      obtain rfl := Except.error.inj h
      exact ⟨a, List.mem_cons_self, ha⟩
    | ok b =>
      rw [ha] at h
      cases hl : l.mapM f with
      | error e' =>
        rw [hl] at h
        obtain rfl := Except.error.inj h
        obtain ⟨a', ha', herror⟩ := ih hl
        exact ⟨a', List.mem_cons_of_mem a ha', herror⟩
      | ok r =>
        rw [hl] at h
        cases h

/-- Every element has a partner exactly when the whole list has partners. -/
theorem exists_forall₂_iff {R : α → β → Prop} {l : List α} :
    (∃ r, List.Forall₂ R l r) ↔ ∀ a ∈ l, ∃ b, R a b := by
  induction l with
  | nil => exact ⟨fun _ a ha => absurd ha List.not_mem_nil, fun _ => ⟨[], .nil⟩⟩
  | cons a l ih =>
    rw [List.forall_mem_cons, ← ih]
    constructor
    · rintro ⟨_, h⟩
      obtain ⟨b, r, hb, hr, -⟩ := List.forall₂_cons_left_iff.mp h
      exact ⟨⟨b, hb⟩, r, hr⟩
    · rintro ⟨⟨b, hb⟩, r, hr⟩
      exact ⟨b :: r, .cons hb hr⟩

end Steps

/-- Only an object that is not there counts as something. -/
theorem FetchError.whenMissing_of_found {α : Type} {default : α} {x : Except FetchError α}
    (h : ∀ e, x = .error e → e.isNotFound = false) : whenMissing default x = x := by
  cases x with
  | ok a => rfl
  | error e =>
    have hfound : ¬e.isNotFound = true := Bool.eq_false_iff.mp (h e rfl)
    rw [whenMissing, if_neg hfound]

/-! ### Kinds -/

namespace RelationKind

/-- No two kinds have one name, whatever its ASCII case. -/
theorem eq_of_eqIgnoringCase_text : ∀ {k k' : RelationKind},
    Text.eqIgnoringCase k.text k'.text = true → k = k' := by
  have hall : ∀ k ∈ all, ∀ k' ∈ all, Text.eqIgnoringCase k.text k'.text = true → k = k' := by
    decide +kernel
  intro k k'
  exact hall k (mem_all k) k' (mem_all k')

/-- A text is read as the kind whose name it is, blanks around it and ASCII case aside. -/
theorem parse?_eq_some_iff {s : String} {kind : RelationKind} :
    parse? s = some kind ↔ Text.eqIgnoringCase kind.text (Text.trim s) = true := by
  rw [parse?]
  constructor
  · intro h
    have hkind := List.find?_some h
    exact hkind
  · intro h
    have hsome : (all.find? fun k => Text.eqIgnoringCase k.text (Text.trim s)).isSome = true :=
      List.find?_isSome.mpr ⟨kind, mem_all kind, h⟩
    obtain ⟨k, hk⟩ := Option.isSome_iff_exists.mp hsome
    have hread := List.find?_some hk
    have hsame := (Text.eqIgnoringCase_iff.mp hread).trans (Text.eqIgnoringCase_iff.mp h).symm
    rw [hk, eq_of_eqIgnoringCase_text (Text.eqIgnoringCase_iff.mpr hsame)]

end RelationKind

namespace Listing

namespace Row

variable {row : Row} {r : Relation} {kind : RelationKind}

/-! ### What a row says -/

/-- A row **is named** when its name cell has a text that is not blank. -/
def IsNamed (row : Row) : Prop :=
  ∃ name, row.name.cellText? = some name ∧ Text.isBlankText name = false

/-- A row **names** a kind when the text of its kind cell is the name of the kind, blanks around it
and ASCII case aside. -/
def NamesKind (row : Row) (kind : RelationKind) : Prop :=
  ∃ text, row.kind.cellText? = some text
    ∧ Text.eqIgnoringCase kind.text (Text.trim text) = true

/-- The kind of a row is **unknown** when the row names none. -/
def HasUnknownKind (row : Row) : Prop := ∀ kind, ¬row.NamesKind kind

theorem namedKind?_eq_some_iff : row.namedKind? = some kind ↔ row.NamesKind kind := by
  rw [namedKind?, Option.bind_eq_some_iff, NamesKind]
  simp only [RelationKind.parse?_eq_some_iff]

theorem namedKind?_eq_none_iff : row.namedKind? = none ↔ row.HasUnknownKind := by
  rw [Option.eq_none_iff_forall_ne_some, HasUnknownKind]
  exact forall_congr' fun kind => not_congr namedKind?_eq_some_iff

instance (row : Row) : Decidable row.HasUnknownKind := decidable_of_iff _ namedKind?_eq_none_iff

/-- A row **lists** a relation when its cells tell what the relation is. -/
structure Lists (row : Row) (r : Relation) : Prop where
  identifier : row.name.cellText? = some r.identifier
  isBlankText_identifier : Text.isBlankText r.identifier = false
  database : r.database = row.database.cellText?
  database_ne : r.database ≠ some ""
  schema : r.schema = row.schema.cellText?
  schema_ne : r.schema ≠ some ""
  kind : ∀ kind, row.NamesKind kind →
    r.kind = if kind = .table ∧ row.isDynamic.saysYes = true then .dynamicTable else kind
  external : row.HasUnknownKind → r.kind = .external
  format : r.format = if row.isIceberg.saysYes then .iceberg else .native
  quoting : r.quoting = .all

/-! ### Relations -/

theorem relationKind_of_namesKind (h : row.NamesKind kind) : row.relationKind
    = if kind = .table ∧ row.isDynamic.saysYes = true then .dynamicTable else kind := by
  rw [relationKind, namedKind?_eq_some_iff.mpr h]
  cases kind <;> simp

theorem relationKind_of_hasUnknownKind (h : row.HasUnknownKind) : row.relationKind = .external := by
  rw [relationKind, namedKind?_eq_none_iff.mpr h]

/-- What a row says of its kind settles the kind of the relation. -/
theorem Lists.kind_eq (h : row.Lists r) : r.kind = row.relationKind := by
  cases hkind : row.namedKind? with
  | none =>
    have hunknown := namedKind?_eq_none_iff.mp hkind
    rw [h.external hunknown, relationKind_of_hasUnknownKind hunknown]
  | some kind =>
    have hnamed := namedKind?_eq_some_iff.mp hkind
    rw [h.kind kind hnamed, relationKind_of_namesKind hnamed]

/-- The relation of a row with a name. -/
def relation (row : Row) (identifier : String) : Relation where
  database := row.database.cellText?
  schema := row.schema.cellText?
  identifier
  kind := row.relationKind
  format := if row.isIceberg.saysYes then .iceberg else .native

theorem lists_relation {name : String} (hname : row.name.cellText? = some name)
    (hblank : Text.isBlankText name = false) : row.Lists (row.relation name) where
  identifier := hname
  isBlankText_identifier := hblank
  database := rfl
  database_ne := row.database.cellText?_ne_empty
  schema := rfl
  schema_ne := row.schema.cellText?_ne_empty
  kind _ h := relationKind_of_namesKind h
  external h := relationKind_of_hasUnknownKind h
  format := rfl
  quoting := rfl

theorem Lists.eq_relation (h : row.Lists r) : r = row.relation r.identifier := by
  rw [relation, ← h.database, ← h.schema, ← h.kind_eq, ← h.format, ← h.quoting]

/-- A row lists some relation exactly when it is named. -/
theorem exists_lists_iff : (∃ r, row.Lists r) ↔ row.IsNamed := by
  constructor
  · rintro ⟨r, hr⟩
    exact ⟨r.identifier, hr.identifier, hr.isBlankText_identifier⟩
  · rintro ⟨name, hname, hblank⟩
    exact ⟨row.relation name, lists_relation hname hblank⟩

/-- The relation of a row is created of the texts in its cells, none of which is empty. -/
theorem classify_of_name {name : String} (hname : row.name.cellText? = some name)
    (hblank : Text.isBlankText name = false) : row.classify = .ok (row.relation name) := by
  rw [classify, hname]
  simp only [Relation.create_eq_ok row.database.cellText?_ne_empty row.schema.cellText?_ne_empty
    hblank]
  rfl

/-- A row without a name is refused, and so is one with a blank name. -/
theorem exists_classify_eq_error (h : ¬row.IsNamed) :
    ∃ detail, row.classify = .error ⟨.invalidResponse, detail⟩ := by
  rw [classify]
  cases hname : row.name.cellText? with
  | none => exact ⟨_, rfl⟩
  | some name =>
    have hblank : Text.isBlankText name = true := by
      by_contra hne
      exact h ⟨name, hname, Bool.eq_false_iff.mpr hne⟩
    simp only [Relation.create, if_pos hblank]
    exact ⟨_, rfl⟩

/-- **Classification** of a row gives the relation that the row lists. -/
theorem classify_eq_ok_iff : row.classify = .ok r ↔ row.Lists r := by
  constructor
  · intro h
    by_cases hnamed : row.IsNamed
    · obtain ⟨name, hname, hblank⟩ := hnamed
      rw [classify_of_name hname hblank] at h
      exact Except.ok.inj h ▸ lists_relation hname hblank
    · obtain ⟨detail, hdetail⟩ := exists_classify_eq_error hnamed
      rw [hdetail] at h
      cases h
  · intro h
    rw [classify_of_name h.identifier h.isBlankText_identifier, ← h.eq_relation]

theorem failure_of_classify {e : FetchError} (h : row.classify = .error e) :
    e.failure = .invalidResponse := by
  by_cases hnamed : row.IsNamed
  · obtain ⟨r, hr⟩ := exists_lists_iff.mpr hnamed
    rw [classify_eq_ok_iff.mpr hr] at h
    cases h
  · obtain ⟨detail, hdetail⟩ := exists_classify_eq_error hnamed
    exact Except.error.inj (hdetail.symm.trans h) ▸ rfl

/-! ### Warnings -/

/-- The dotted name of a row is that of the relation it lists: a cell without a text stands for a
part that is not there. -/
theorem Lists.qualifiedName_eq (h : row.Lists r) : row.qualifiedName = r.qualifiedName := by
  rw [qualifiedName, Relation.qualifiedName, dottedName, h.database, h.schema]
  simp only [List.filterMap_cons, List.filterMap_nil, h.identifier]
  cases row.database.cellText? <;> cases row.schema.cellText? <;> rfl

/-- What is said of a kind cell that names no kind. -/
def kindRemark (row : Row) : String :=
  match row.kind.cellText? with
  | some kind => " has unrecognized kind '" ++ kind ++ "', treated as external"
  | none => " has no kind, treated as external"

/-- A diagnostic **warns** of a row and the relation it lists: it names the relation, which is
external, and says why. -/
structure Warns (row : Row) (r : Relation) (d : Diagnostic) : Prop where
  code : d.code = .relationKindUnknown
  severity : d.severity = .warn
  relation : d.relation = some r.qualifiedName
  message : d.message = r.qualifiedName ++ row.kindRemark
  external : r.kind = .external

theorem unknownKind?_of_not_hasUnknownKind (h : ¬row.HasUnknownKind) : row.unknownKind? = none := by
  rw [unknownKind?]
  cases hkind : row.namedKind? with
  | none => exact absurd (namedKind?_eq_none_iff.mp hkind) h
  | some kind => rfl

/-- A row of unknown kind is warned of. -/
theorem Lists.exists_warns (h : row.Lists r) (hunknown : row.HasUnknownKind) :
    ∃ d, row.unknownKind? = some d ∧ row.Warns r d := by
  rw [unknownKind?, namedKind?_eq_none_iff.mpr hunknown]
  refine ⟨_, rfl, rfl, rfl, congrArg some h.qualifiedName_eq, ?_, h.external hunknown⟩
  rw [← h.qualifiedName_eq, kindRemark]
  cases row.kind.cellText? with
  | none => rfl
  | some kind =>
    simp only [String.append_assoc]
    rfl

end Row

/-! ### Listings -/

/-- A table lists the relations of its rows, in their order. -/
theorem relationsOf_eq_ok_iff {t : Table} {rs : List Relation} :
    relationsOf t = .ok rs ↔ List.Forall₂ Row.Lists (Row.ofTable t) rs := by
  rw [relationsOf, mapM_eq_ok_iff]
  simp only [Row.classify_eq_ok_iff]

theorem isNotFound_of_relationsOf {t : Table} {e : FetchError} (h : relationsOf t = .error e) :
    e.isNotFound = false := by
  obtain ⟨row, -, hrow⟩ := exists_mem_of_mapM_eq_error h
  rw [FetchError.isNotFound, Row.failure_of_classify hrow]
  rfl

/-- A table that was fetched is there, whatever its rows say. -/
theorem relations_ok (t : Table) : relations (.ok t) = relationsOf t :=
  FetchError.whenMissing_of_found fun _ => isNotFound_of_relationsOf

/-- The rows that an answer tells of: none, when it is a failure. -/
def rowsOf : Except FetchError Table → List Row
  | .ok t => Row.ofTable t
  | .error _ => []

/-- The reader of warnings reads the relations as the other reader does, and the warnings row by
row. -/
theorem reportedRelations_eq (answer : Except FetchError Table) : reportedRelations answer
    = (relations answer).map fun rs => (rs, (rowsOf answer).filterMap Row.unknownKind?) := by
  cases answer with
  | ok t =>
    rw [relations_ok]
    refine FetchError.whenMissing_of_found fun e h => ?_
    cases hrelations : relationsOf t with
    | ok rs =>
      rw [Except.bind, reportedRelationsOf, hrelations] at h
      cases h
    | error e' =>
      rw [Except.bind, reportedRelationsOf, hrelations] at h
      exact Except.error.inj h ▸ isNotFound_of_relationsOf hrelations
  | error e =>
    change FetchError.whenMissing _ (.error e) = (FetchError.whenMissing _ (.error e)).map _
    rw [FetchError.whenMissing, FetchError.whenMissing]
    cases e.isNotFound <;> rfl

theorem forall₂_lists_of_relations {answer : Except FetchError Table} {rs : List Relation}
    (h : relations answer = .ok rs) : List.Forall₂ Row.Lists (rowsOf answer) rs := by
  cases answer with
  | ok t => exact relationsOf_eq_ok_iff.mp (relations_ok t ▸ h)
  | error e =>
    change FetchError.whenMissing [] (.error e) = .ok rs at h
    rw [FetchError.whenMissing] at h
    split at h
    · exact Except.ok.inj h ▸ .nil
    · cases h

/-- The warnings about rows are those about the rows of unknown kind, with the relations that these
list. -/
theorem forall₂_warns {rows : List Row} {rs : List Relation}
    (h : List.Forall₂ Row.Lists rows rs) :
    List.Forall₂ (fun p d => Row.Warns p.1 p.2 d)
      ((rows.zip rs).filter fun p => p.1.HasUnknownKind) (rows.filterMap Row.unknownKind?) := by
  induction h with
  | nil => exact .nil
  | @cons row r rows rs hrow _ ih =>
    rw [List.zip_cons_cons, List.filter_cons, List.filterMap_cons]
    by_cases hunknown : row.HasUnknownKind
    · obtain ⟨d, hd, hwarns⟩ := hrow.exists_warns hunknown
      rw [if_pos (decide_eq_true hunknown), hd]
      exact .cons hwarns ih
    · rw [if_neg (by simpa using hunknown), Row.unknownKind?_of_not_hasUnknownKind hunknown]
      exact ih

/-- **Two readers of a listing agree**, whatever was answered. They find the same relations or fail
in the same way. A table is read exactly when every row of it is named; then each row lists a
relation, and there is one warning for each row of unknown kind, which names the relation of the
row, an external one. -/
theorem listing_paths_agree (answer : Except FetchError Table) :
    (reportedRelations answer).map Prod.fst = relations answer
      ∧ (∀ t, answer = .ok t →
          ((∃ rs, relations answer = .ok rs) ↔ ∀ row ∈ Row.ofTable t, row.IsNamed))
      ∧ ∀ rs ds, reportedRelations answer = .ok (rs, ds) →
          List.Forall₂ Row.Lists (rowsOf answer) rs
            ∧ List.Forall₂ (fun p d => Row.Warns p.1 p.2 d)
                (((rowsOf answer).zip rs).filter fun p => p.1.HasUnknownKind) ds := by
  refine ⟨?_, ?_, fun rs ds h => ?_⟩
  · rw [reportedRelations_eq]
    cases relations answer <;> rfl
  · rintro t rfl
    simp only [relations_ok, relationsOf_eq_ok_iff, exists_forall₂_iff, Row.exists_lists_iff]
  · rw [reportedRelations_eq] at h
    cases hrelations : relations answer with
    | error e =>
      rw [hrelations] at h
      cases h
    | ok rs' =>
      rw [hrelations] at h
      obtain ⟨rfl, rfl⟩ := Prod.mk.inj (Except.ok.inj h)
      have hlists := forall₂_lists_of_relations hrelations
      exact ⟨hlists, forall₂_warns hlists⟩

/-- Of a table and a stage, the stage is warned of. -/
theorem listing_paths_agree_stage :
    let rows := [[.text "orders", .text " Table "], [.text "raw", .text "STAGE", .text "landing"]]
    let answer := .ok ⟨["NAME", "Kind", "Schema_Name"], rows⟩
    let orders : Relation := { database := none, schema := none, identifier := "orders" }
    let raw : Relation :=
      { database := none, schema := some "landing", identifier := "raw", kind := .external }
    let message := "landing.raw has unrecognized kind 'STAGE', treated as external"
    let warning : Diagnostic :=
      { code := .relationKindUnknown, severity := .warn, message, relation := some "landing.raw" }
    reportedRelations answer = .ok ([orders, raw], [warning])
      ∧ relations answer = .ok [orders, raw]
      ∧ (∀ row ∈ rowsOf answer, row.IsNamed)
      ∧ List.Forall₂ Row.Lists (rowsOf answer) [orders, raw]
      ∧ List.Forall₂ (fun p d => Row.Warns p.1 p.2 d)
          (((rowsOf answer).zip [orders, raw]).filter fun p => p.1.HasUnknownKind) [warning] := by
  intro rows answer orders raw message warning
  have hreported : reportedRelations answer = .ok ([orders, raw], [warning]) := by decide +kernel
  obtain ⟨hsame, hnamed, hlists⟩ := listing_paths_agree answer
  have hrelations : relations answer = .ok [orders, raw] := by
    rw [← hsame, hreported]
    rfl
  exact ⟨hreported, hrelations, (hnamed _ rfl).mp ⟨_, hrelations⟩, hlists _ _ hreported⟩

end Listing

end SchemaDrift
