import SchemaDrift.Session

/-!
# Listing undoes adding

A relation that is added to a warehouse becomes a row of text in the listing of its schema: its
kind in capitals, a dynamic table as a table with a flag, its format as another flag, parts that
are not there as nulls. Listing the schema reads these rows back.

* `Listing.Row.classify_ofRelation`: the row of a relation is classified as that relation, with
  every part of its name quoted. This is the one thing that a row does not keep.
* `Warehouse.Lists`: what is true of the listings of a warehouse to which some relations were
  added; `Lists.addRelation` and `Lists.addAll` say that adding keeps it true.
* `Session.listReported_addAll`: a schema lists what was added to it, in order.

A listing is found by the dotted name of its schema, so schemas that are written alike share
one: `a.b` without a database, and `b` in the database `a`.
-/

namespace SchemaDrift

/-! ### The cells of a row -/

/-- The text of an optional cell is read back, unless it is empty. -/
theorem Value.cellText?_ofOptionText {o : Option String} (h : o ≠ some "") :
    (ofOptionText o).cellText? = o := by
  cases o with
  | none => rfl
  | some s =>
    have hs : s ≠ "" := fun hnil => h (congrArg some hnil)
    simp [ofOptionText, cellText?, text, hs]

theorem Value.cellText?_text {s : String} (h : s ≠ "") : (text s).cellText? = some s :=
  cellText?_ofOptionText (o := some s) fun hnil => h (Option.some.inj hnil)

theorem Warehouse.saysYes_flag (b : Bool) : (flag b).saysYes = b := by
  cases b <;> decide +kernel

/-- The name of a kind is still the name of that kind in capitals, and it is not empty. -/
theorem RelationKind.parse?_upper_text (k : RelationKind) :
    parse? (Text.upper k.text) = some k ∧ Text.upper k.text ≠ "" := by
  cases k <;> decide +kernel

namespace Listing.Row

open Warehouse (listingColumns listingRow flag)

/-! ### The row of a relation -/

/-- The row that lists a relation, as it is read from a listing. -/
def ofRelation (r : Relation) : Row where
  database := .ofOptionText r.database
  schema := .ofOptionText r.schema
  name := .text r.identifier
  kind := .text (Text.upper (if r.kind = .dynamicTable then RelationKind.table else r.kind).text)
  isDynamic := flag (r.kind = .dynamicTable)
  isIceberg := flag (r.format = .iceberg)

/-- The columns of a listing are found although they are written in capitals. -/
theorem ofTable_listing (rs : List Relation) :
    ofTable ⟨listingColumns, rs.map listingRow⟩ = rs.map ofRelation := by
  have hlower : listingColumns.map Text.lower
      = ["database_name", "schema_name", "name", "kind", "is_dynamic", "is_iceberg"] := by
    decide +kernel
  rw [ofTable, Table.lowerNames, hlower, List.map_map]
  rfl

variable {r : Relation}

/-- The kind that a row names is the kind of its relation, but for dynamic tables. -/
theorem namedKind?_ofRelation (r : Relation) :
    (ofRelation r).namedKind? = some (if r.kind = .dynamicTable then .table else r.kind) := by
  obtain ⟨hparse, hne⟩ :=
    RelationKind.parse?_upper_text (if r.kind = .dynamicTable then .table else r.kind)
  simp only [namedKind?, ofRelation, Value.cellText?_text hne, Option.bind_some, hparse]

/-- The flag of a row tells a dynamic table from other tables. -/
theorem relationKind_ofRelation (r : Relation) : (ofRelation r).relationKind = r.kind := by
  have hflag : (ofRelation r).isDynamic.saysYes = decide (r.kind = .dynamicTable) :=
    Warehouse.saysYes_flag _
  rw [relationKind, namedKind?_ofRelation, hflag]
  cases r.kind <;> rfl

theorem unknownKind?_ofRelation (r : Relation) : (ofRelation r).unknownKind? = none := by
  rw [unknownKind?, namedKind?_ofRelation]

/-- **The row of a relation is read back**, with every part of the name quoted. -/
theorem classify_ofRelation (h : r.IsCreated) : (ofRelation r).classify = .ok r.fullyQuoted := by
  obtain ⟨hdatabase, hschema, hblank⟩ := Relation.isCreated_iff.mp h
  have hname : r.identifier ≠ "" := by
    intro hnil
    rw [hnil] at hblank
    cases hblank
  have hformat : (if (ofRelation r).isIceberg.saysYes then StorageFormat.iceberg else .native)
      = r.format := by
    rw [ofRelation, Warehouse.saysYes_flag]
    cases r.format <;> rfl
  rw [classify, relationKind_ofRelation, hformat]
  simp only [ofRelation, Value.cellText?_text hname, Value.cellText?_ofOptionText hdatabase,
    Value.cellText?_ofOptionText hschema, Relation.create_eq_ok hdatabase hschema hblank]
  rfl

end Listing.Row

/-! ### The listing of a schema -/

namespace Listing

open Warehouse (listingColumns listingRow)

variable {rs : List Relation}

/-- The relations of a listing are read back. -/
theorem relationsOf_listing (h : ∀ r ∈ rs, r.IsCreated) :
    relationsOf ⟨listingColumns, rs.map listingRow⟩ = .ok (rs.map Relation.fullyQuoted) := by
  rw [relationsOf, Row.ofTable_listing]
  induction rs with
  | nil => rfl
  | cons r rs ih =>
    rw [List.map_cons, List.mapM_cons, Row.classify_ofRelation (h r List.mem_cons_self),
      ih fun s hs => h s (List.mem_cons_of_mem r hs)]
    rfl

/-- No kind of a listing is unknown. -/
theorem reportedRelationsOf_listing (h : ∀ r ∈ rs, r.IsCreated) :
    reportedRelationsOf ⟨listingColumns, rs.map listingRow⟩
      = .ok (rs.map Relation.fullyQuoted, []) := by
  have hknown : (rs.map Row.ofRelation).filterMap Row.unknownKind? = [] := by
    rw [List.filterMap_eq_nil_iff]
    intro row hrow
    obtain ⟨r, -, rfl⟩ := List.mem_map.mp hrow
    exact Row.unknownKind?_ofRelation r
  rw [reportedRelationsOf, relationsOf_listing h, Row.ofTable_listing, hknown]
  rfl

end Listing

/-! ### Adding relations to a warehouse -/

/-- Whether a relation is listed under the name of a schema. -/
def Relation.isListedUnder (name : String) (r : Relation) : Bool :=
  r.schemaRef?.map SchemaRef.display = some name

namespace Warehouse

/-- A warehouse to which nothing has been added. -/
def fresh (engine : Engine) (name : String) (isUnreachable : Bool) : Warehouse :=
  { engine, name, isUnreachable }

/-- Add relations with their columns, one after another. -/
def addAll (w : Warehouse) (added : List (Relation × List Column)) : Warehouse :=
  added.foldl (fun w a => w.addRelation a.1 a.2) w

/-- The listing of some relations of one schema. A schema without relations has none. -/
def listingOf? : List Relation → Option Table
  | [] => none
  | r :: rs => some ⟨listingColumns, (r :: rs).map listingRow⟩

theorem listingOf?_concat (rs : List Relation) (r : Relation) :
    listingOf? (rs ++ [r])
      = some (((listingOf? rs).getD (.withColumns listingColumns)).push (listingRow r)) := by
  cases rs with
  | nil => rfl
  | cons s rs =>
    have hrows : (s :: (rs ++ [r])).map listingRow
        = (s :: rs).map listingRow ++ [listingRow r] := by
      rw [← List.cons_append, List.map_append, List.map_singleton]
    rw [List.cons_append, listingOf?, hrows]
    rfl

/-- A warehouse **lists** some relations when each of its listings has those that lie under its
name, and it answers without errors. -/
structure Lists (w : Warehouse) (rs : List Relation) : Prop where
  listings : ∀ name, w.listings.find? name = listingOf? (rs.filter (·.isListedUnder name))
  errors : ∀ name, w.errors.find? name = none

variable {w : Warehouse} {rs : List Relation}

theorem lists_fresh (engine : Engine) (name : String) (isUnreachable : Bool) :
    (fresh engine name isUnreachable).Lists [] where
  listings _ := rfl
  errors _ := rfl

/-- A relation is listed at the end of its own listing, and of no other. -/
theorem find?_listings_addRelation (w : Warehouse) (r : Relation) (cs : List Column)
    (name : String) :
    (w.addRelation r cs).listings.find? name
      = if r.isListedUnder name then
          some (((w.listings.find? name).getD (.withColumns listingColumns)).push (listingRow r))
        else w.listings.find? name := by
  rw [addRelation, addColumns, list, Relation.isListedUnder]
  cases hschema : r.schemaRef? with
  | none => rfl
  | some schema =>
    simp only [addListing, Dictionary.find?_insert, Option.map_some, Option.some.injEq,
      decide_eq_true_eq]
    by_cases h : schema.display = name
    · rw [if_pos h.symm, if_pos h, h]
    · rw [if_neg (Ne.symm h), if_neg h]

theorem errors_addRelation (w : Warehouse) (r : Relation) (cs : List Column) :
    (w.addRelation r cs).errors = w.errors := by
  rw [addRelation, addColumns, list]
  cases r.schemaRef? <;> rfl

/-- Adding a relation lists one more. -/
theorem Lists.addRelation (h : w.Lists rs) (r : Relation) (cs : List Column) :
    (w.addRelation r cs).Lists (rs ++ [r]) where
  listings name := by
    rw [find?_listings_addRelation, h.listings, List.filter_append]
    by_cases hr : r.isListedUnder name
    · rw [if_pos hr, List.filter_cons_of_pos hr, List.filter_nil, listingOf?_concat]
    · rw [if_neg hr, List.filter_cons_of_neg hr, List.filter_nil, List.append_nil]
  errors name := by rw [errors_addRelation, h.errors]

/-- Adding relations lists them after what was listed. -/
theorem Lists.addAll (h : w.Lists rs) (added : List (Relation × List Column)) :
    (w.addAll added).Lists (rs ++ added.map (·.1)) := by
  induction added generalizing w rs with
  | nil => simpa [Warehouse.addAll] using h
  | cons a added ih =>
    have hstep := ih (h.addRelation a.1 a.2)
    rwa [List.append_assoc] at hstep

theorem lists_addAll_fresh (engine : Engine) (name : String) (isUnreachable : Bool)
    (added : List (Relation × List Column)) :
    ((fresh engine name isUnreachable).addAll added).Lists (added.map (·.1)) :=
  (lists_fresh engine name isUnreachable).addAll added

/-- Reading the listing of a schema reads the rows of the relations that lie under its name. There
may be none, and then there is no listing to be read. -/
theorem Lists.whenMissing_listObjects {α : Type} {read : Table → Except FetchError α}
    {f : List Relation → α} (h : w.Lists rs) (s : SchemaRef)
    (hread : ∀ kept, (∀ r ∈ kept, r ∈ rs) →
      read ⟨listingColumns, kept.map listingRow⟩ = .ok (f kept)) :
    FetchError.whenMissing (f []) ((w.listObjects s).bind read)
      = .ok (f (rs.filter (·.isListedUnder s.display))) := by
  simp only [listObjects, answer, h.errors, h.listings]
  -- a schema without relations is answered by an error, and this one counts as an answer
  cases hkept : rs.filter (·.isListedUnder s.display) with
  | nil => rfl
  | cons r kept =>
    have hmem : ∀ r' ∈ r :: kept, r' ∈ rs := fun r' hr' =>
      (List.mem_filter.mp (hkept ▸ hr')).1
    change FetchError.whenMissing _ (read ⟨listingColumns, (r :: kept).map listingRow⟩) = _
    rw [hread (r :: kept) hmem]
    rfl

end Warehouse

/-! ### What a session sees -/

namespace Session

variable {w : Warehouse} {rs : List Relation}

/-- A schema lists the relations that lie under its name, with every part of their names quoted. -/
theorem listRelations_of_lists (h : w.Lists rs) (hcreated : ∀ r ∈ rs, r.IsCreated)
    (s : SchemaRef) :
    listRelations w s = .ok ((rs.filter (·.isListedUnder s.display)).map Relation.fullyQuoted) :=
  h.whenMissing_listObjects s fun _ hkept =>
    Listing.relationsOf_listing fun r hr => hcreated r (hkept r hr)

/-- It has nothing to report about them. -/
theorem listReported_of_lists (h : w.Lists rs) (hcreated : ∀ r ∈ rs, r.IsCreated)
    (s : SchemaRef) :
    listReported w s
      = .ok ((rs.filter (·.isListedUnder s.display)).map Relation.fullyQuoted, []) :=
  h.whenMissing_listObjects (f := fun rs => (rs.map Relation.fullyQuoted, [])) s
    fun _ hkept => Listing.reportedRelationsOf_listing fun r hr => hcreated r (hkept r hr)

/-- **Listing undoes adding.** Whatever relations were added to a warehouse, a schema lists those
that lie under its name, in the order in which they were added and as often, each as it was added
but with every part of its name quoted; and there is nothing to report about them. -/
theorem list_addAll (engine : Engine) (name : String) (isUnreachable : Bool)
    (added : List (Relation × List Column)) (hcreated : ∀ a ∈ added, a.1.IsCreated)
    (s : SchemaRef) :
    let w := (Warehouse.fresh engine name isUnreachable).addAll added
    let listed := ((added.map (·.1)).filter (·.isListedUnder s.display)).map Relation.fullyQuoted
    listRelations w s = .ok listed ∧ listReported w s = .ok (listed, []) := by
  intro w listed
  have hlists : w.Lists (added.map (·.1)) :=
    Warehouse.lists_addAll_fresh engine name isUnreachable added
  have hall : ∀ r ∈ added.map (·.1), r.IsCreated := List.forall_mem_map.mpr hcreated
  exact ⟨listRelations_of_lists hlists hall s, listReported_of_lists hlists hall s⟩

/-- A schema is listed together with one that is written alike; a relation that has no schema is
listed nowhere. -/
theorem list_addAll_alike :
    let dynamic : Relation :=
      { database := none, schema := some "a.b", identifier := "x", kind := .dynamicTable,
        quoting := .none }
    let view : Relation :=
      { database := some "a", schema := some "b", identifier := "y", kind := .view,
        format := .iceberg }
    let loose : Relation := { database := none, schema := none, identifier := "z", kind := .cte }
    let added := [(dynamic, []), (loose, []), (view, []), (dynamic, [])]
    let w := (Warehouse.fresh Dialect.snowflake.engine "memory" false).addAll added
    (∀ a ∈ added, a.1.IsCreated)
      ∧ listReported w ⟨some "a", "b"⟩
        = .ok ([dynamic.fullyQuoted, view.fullyQuoted, dynamic.fullyQuoted], []) := by
  intro dynamic view loose added w
  have hcreated : ∀ a ∈ added, a.1.IsCreated := by decide +kernel
  have hlisted : ((added.map (·.1)).filter (·.isListedUnder "a.b")).map Relation.fullyQuoted
      = [dynamic.fullyQuoted, view.fullyQuoted, dynamic.fullyQuoted] := by decide +kernel
  have hlist := (list_addAll Dialect.snowflake.engine "memory" false added hcreated
    ⟨some "a", "b"⟩).2
  exact ⟨hcreated, hlist.trans (congrArg (fun rs => Except.ok (rs, [])) hlisted)⟩

end Session

end SchemaDrift
