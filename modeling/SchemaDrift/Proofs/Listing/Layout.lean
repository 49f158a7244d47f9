import Mathlib.Data.List.InsertIdx
import Mathlib.Data.List.Nodup
import Mathlib.Data.List.Perm.Basic
import Mathlib.Logic.Relation
import SchemaDrift.Proofs.Listing.Classification
import SchemaDrift.Snowflake.Answer

/-!
# The layout of a result table

A reader of a result table looks for some fields by the lower-case names of the columns. So the
table may be laid out in many ways: its columns in another order, their names in another case,
further columns in between. `Table.Relaid` is one such change.

A reader sees of a table its **view**: the cells of its fields, row by row. What
`Table.Relaid.view_eq` says of one change and `Table.view_eq_of_relaid` of many is that the view
stays as it is, provided that the table is **clear** about the fields: no row is short or long, and
no field has two columns. That is enough for both readers, which read a view only
(`Listing.Row.ofTable_eq`, `Snowflake.columnsOf_eq`).

The order of the rows does matter, but to the order of the relations only: `layout_irrelevant`.
-/

namespace SchemaDrift

/-! ### Arrangements -/

section Arrangement

variable {α β : Type} {places : List Nat} {l : List α}

/-- The elements of a list at some places. -/
def arrange (places : List Nat) (l : List α) : List α := places.filterMap (l[·]?)

theorem arrange_map (f : α → β) (places : List Nat) (l : List α) :
    arrange places (l.map f) = (arrange places l).map f := by
  rw [arrange, arrange, List.map_filterMap]
  simp only [List.getElem?_map]

theorem arrange_range (l : List α) : arrange (List.range l.length) l = l := by
  induction l with
  | nil => rfl
  | cons a l ih =>
    rw [List.length_cons, List.range_succ_eq_map, arrange, List.filterMap_cons, List.filterMap_map]
    exact congrArg (a :: ·) ih

/-- Every place once: the elements in another order. -/
theorem arrange_perm (h : places.Perm (List.range l.length)) : (arrange places l).Perm l := by
  have hperm : (arrange places l).Perm (arrange (List.range l.length) l) := h.filterMap _
  rwa [arrange_range] at hperm

theorem arrange_zip {m : List β} (h : l.length = m.length) :
    (arrange places l).zip (arrange places m) = arrange places (l.zip m) := by
  refine (List.zip_of_prod ?_ ?_).symm
  · rw [← arrange_map, List.map_fst_zip (Nat.le_of_eq h)]
  · rw [← arrange_map, List.map_snd_zip (Nat.le_of_eq h.symm)]

theorem insertIdx_zip {m : List β} (h : l.length = m.length) (place : Nat) (a : α) (b : β) :
    (l.insertIdx place a).zip (m.insertIdx place b) = (l.zip m).insertIdx place (a, b) := by
  refine (List.zip_of_prod ?_ ?_).symm
  · rw [List.map_insertIdx, List.map_fst_zip (Nat.le_of_eq h)]
  · rw [List.map_insertIdx, List.map_snd_zip (Nat.le_of_eq h.symm)]

/-- Related lists stay related at the same places. -/
theorem forall₂_arrange {R : α → β → Prop} {m : List β} (places : List Nat)
    (h : List.Forall₂ R l m) : List.Forall₂ R (arrange places l) (arrange places m) := by
  induction places with
  | nil => exact .nil
  | cons place places ih =>
    rw [arrange, arrange, List.filterMap_cons, List.filterMap_cons]
    rcases Nat.lt_or_ge place l.length with hl | hl
    · have hm : place < m.length := h.length_eq ▸ hl
      rw [List.getElem?_eq_getElem hl, List.getElem?_eq_getElem hm]
      exact .cons (h.get hl hm) ih
    · rw [List.getElem?_eq_none hl, List.getElem?_eq_none (h.length_eq ▸ hl)]
      exact ih

end Arrangement

/-! ### Labels -/

section Lookup

variable {α : Type} {l l' : List (String × α)} {label : String}

/-- The cell under the first column with a label is the first cell with this label. -/
theorem lookup_zip (labels : List String) (row : List α) (label : String) :
    (labels.zip row).lookup label = (labels.findIdx? (· = label)).bind (row[·]?) := by
  induction labels generalizing row with
  | nil => rfl
  | cons first labels ih =>
    cases row with
    | nil => simp
    | cons a row =>
      rw [List.zip_cons_cons, List.lookup_cons, List.findIdx?_cons]
      by_cases hfirst : first = label
      · rw [hfirst, beq_self_eq_true, if_pos (decide_eq_true rfl), Option.bind_some]
        rfl
      · have hne : (label == first) = false := beq_eq_false_iff_ne.mpr (Ne.symm hfirst)
        rw [hne, if_neg (by simpa using hfirst), Option.bind_map, ih]
        rfl

/-- A label that occurs once finds the same in every order. -/
theorem lookup_eq_of_perm (h : l.Perm l') (hsingle : (l.map Prod.fst).count label ≤ 1) :
    l.lookup label = l'.lookup label := by
  induction h with
  | nil => rfl
  | cons p _ ih =>
    rw [List.lookup_cons, List.lookup_cons]
    rw [List.map_cons, List.count_cons] at hsingle
    cases label == p.1 with
    | true => rfl
    | false => exact ih (by omega)
  | swap p q l =>
    rw [List.lookup_cons, List.lookup_cons, List.lookup_cons, List.lookup_cons]
    rw [List.map_cons, List.map_cons, List.count_cons, List.count_cons] at hsingle
    by_cases hp : label = p.1
    · have hq : ¬label = q.1 := by
        intro hq
        rw [← hp, ← hq] at hsingle
        simp at hsingle
      rw [beq_eq_false_iff_ne.mpr hq]
    · rw [beq_eq_false_iff_ne.mpr hp]
  | trans hperm _ ih ih' =>
    exact (ih hsingle).trans (ih' ((hperm.map Prod.fst).count_eq label ▸ hsingle))

end Lookup

/-! ### Views -/

namespace Table

variable {fields : List String} {t t' : Table}

/-- A row **as seen** through some fields: the cell of each, whatever the case of the names. -/
def seen (t : Table) (fields : List String) (row : List Value)
    (field : { field // field ∈ fields }) : Value :=
  t.lowerNames.cell row field

/-- The **view** of a table through some fields. -/
def view (t : Table) (fields : List String) : List ({ field // field ∈ fields } → Value) :=
  t.rows.map (t.seen fields)

/-- The names of the columns in lower case. -/
def labels (t : Table) : List String := t.columns.map Text.lower

/-- A row with the label of each cell. -/
def labelled (t : Table) (row : List Value) : List (String × Value) := t.labels.zip row

theorem seen_eq_lookup (t : Table) (row : List Value) (field : { field // field ∈ fields }) :
    t.seen fields row field = ((t.labelled row).lookup field.1).getD .null := by
  rw [labelled, lookup_zip]
  rfl

/-- A table is **rectangular** when each row has one cell for each column. -/
def IsRectangular (t : Table) : Prop := ∀ row ∈ t.rows, row.length = t.columns.length

instance (t : Table) : Decidable t.IsRectangular :=
  inferInstanceAs (Decidable (∀ row ∈ t.rows, row.length = t.columns.length))

/-- A table is **clear** about some fields when it is rectangular and no field has two columns. -/
structure IsClear (t : Table) (fields : List String) : Prop where
  rectangular : t.IsRectangular
  single : ∀ field ∈ fields, t.labels.count field ≤ 1

theorem isClear_of_nodup (hrectangular : t.IsRectangular) (h : t.labels.Nodup)
    (fields : List String) : t.IsClear fields :=
  ⟨hrectangular, fun field _ => List.nodup_iff_count_le_one.mp h field⟩

/-! ### Changes of layout -/

/-- The columns at some places, with their cells. -/
def arrangeColumns (t : Table) (places : List Nat) : Table :=
  ⟨arrange places t.columns, t.rows.map (arrange places)⟩

/-- Another column at a place, with a cell for each row. -/
def insertColumn (t : Table) (place : Nat) (name : String) (cells : List Value) : Table :=
  ⟨t.columns.insertIdx place name, (t.rows.zip cells).map fun p => p.1.insertIdx place p.2⟩

/-- A table is **laid out anew** for the readers of some fields: its columns are put into another
order, their names are spelled in another case, or a column is added that is none of the fields. -/
inductive Relaid (fields : List String) (t : Table) : Table → Prop
  | arrange (places : List Nat) (hplaces : places.Perm (List.range t.columns.length)) :
    Relaid fields t (t.arrangeColumns places)
  | respell (names : List String) (hnames : names.map Text.lower = t.columns.map Text.lower) :
    Relaid fields t { t with columns := names }
  | insert (place : Nat) (name : String) (cells : List Value)
    (hname : Text.lower name ∉ fields) (hplace : place ≤ t.columns.length)
    (hcells : cells.length = t.rows.length) : Relaid fields t (t.insertColumn place name cells)

section Rows

variable {row : List Value} (hrow : row.length = t.columns.length)

include hrow

theorem length_labelled : (t.labelled row).length = t.columns.length := by
  rw [labelled, List.length_zip, labels, List.length_map, hrow, Nat.min_self]

theorem labelled_arrangeColumns (places : List Nat) :
    (t.arrangeColumns places).labelled (arrange places row) = arrange places (t.labelled row) := by
  have hlength : (t.columns.map Text.lower).length = row.length := by rw [List.length_map, hrow]
  rw [labelled, labels, arrangeColumns, ← arrange_map, arrange_zip hlength]
  rfl

theorem labelled_insertColumn (place : Nat) (name : String) (cells : List Value) (cell : Value) :
    (t.insertColumn place name cells).labelled (row.insertIdx place cell)
      = (t.labelled row).insertIdx place (Text.lower name, cell) := by
  have hlength : (t.columns.map Text.lower).length = row.length := by rw [List.length_map, hrow]
  rw [labelled, labels, insertColumn, List.map_insertIdx, insertIdx_zip hlength]
  rfl

/-- A row looks the same when its labelled cells are put into another order, and some are added
whose labels are none of the fields. -/
theorem IsClear.seen_eq (hclear : t.IsClear fields) {row' : List Value}
    (extra : List (String × Value)) (hextra : ∀ p ∈ extra, p.1 ∉ fields)
    (hperm : (t'.labelled row').Perm (extra ++ t.labelled row)) :
    t'.seen fields row' = t.seen fields row := by
  funext ⟨field, hfield⟩
  have hlabels : (t.labelled row).map Prod.fst = t.labels :=
    List.map_fst_zip (Nat.le_of_eq (by rw [labels, List.length_map, hrow]))
  have hne : ∀ p ∈ extra, p.1 ≠ field := fun p hp heq => hextra p hp (heq ▸ hfield)
  have hnone : extra.lookup field = none :=
    List.lookup_eq_none_iff.mpr fun p hp => bne_iff_ne.mpr (hne p hp).symm
  have hsingle : ((extra ++ t.labelled row).map Prod.fst).count field ≤ 1 := by
    have habsent : field ∉ extra.map Prod.fst := fun h => by
      obtain ⟨p, hp, heq⟩ := List.mem_map.mp h
      exact hne p hp heq
    rw [List.map_append, List.count_append, hlabels, List.count_eq_zero_of_not_mem habsent,
      Nat.zero_add]
    exact hclear.single field hfield
  rw [seen_eq_lookup, seen_eq_lookup, ← lookup_eq_of_perm hperm.symm hsingle, List.lookup_append,
    hnone, Option.none_or]

end Rows

/-- A change of layout leaves the view as it is. -/
theorem Relaid.view_eq (h : Relaid fields t t') (hclear : t.IsClear fields) :
    t'.view fields = t.view fields := by
  cases h with
  | arrange places hplaces =>
    rw [view, arrangeColumns, List.map_map]
    refine List.map_congr_left fun row hrow => ?_
    have hlength := hclear.rectangular row hrow
    refine hclear.seen_eq hlength [] (List.forall_mem_nil _) ?_
    have hperm := arrange_perm (l := t.labelled row) (length_labelled hlength ▸ hplaces)
    exact labelled_arrangeColumns hlength places ▸ hperm
  | respell names hnames =>
    refine List.map_congr_left fun row hrow => ?_
    refine hclear.seen_eq (hclear.rectangular row hrow) [] (List.forall_mem_nil _) ?_
    rw [labelled, labels, hnames]
    exact .refl _
  | insert place name cells hname hplace hcells =>
    have hview : t.view fields = ((t.rows.zip cells).map Prod.fst).map (t.seen fields) := by
      rw [List.map_fst_zip (Nat.le_of_eq hcells.symm), view]
    rw [hview, view, insertColumn, List.map_map, List.map_map]
    refine List.map_congr_left fun p hp => ?_
    have hlength := hclear.rectangular p.1 (List.of_mem_zip hp).1
    refine hclear.seen_eq hlength [(Text.lower name, p.2)] (List.forall_mem_singleton.mpr hname) ?_
    have hperm := List.perm_insertIdx (Text.lower name, p.2) (t.labelled p.1)
      (length_labelled hlength ▸ hplace)
    exact labelled_insertColumn hlength place name cells p.2 ▸ hperm

/-- A change of layout leaves no row short or long. -/
theorem Relaid.isRectangular (h : Relaid fields t t') (hrectangular : t.IsRectangular) :
    t'.IsRectangular := by
  cases h with
  | arrange places hplaces =>
    intro row' hrow'
    obtain ⟨row, hrow, rfl⟩ := List.mem_map.mp hrow'
    have hlength := hrectangular row hrow
    have hcells := (arrange_perm (hlength ▸ hplaces)).length_eq
    exact hcells.trans (hlength.trans (arrange_perm hplaces).length_eq.symm)
  | respell names hnames =>
    intro row hrow
    have hlength := congrArg List.length hnames
    rw [List.length_map, List.length_map] at hlength
    exact (hrectangular row hrow).trans hlength.symm
  | insert place name cells hname hplace hcells =>
    intro row' hrow'
    obtain ⟨p, hp, rfl⟩ := List.mem_map.mp hrow'
    have hlength := hrectangular p.1 (List.of_mem_zip hp).1
    rw [List.length_insertIdx_of_le_length (hlength ▸ hplace), hlength, insertColumn,
      List.length_insertIdx_of_le_length hplace]

/-- A change of layout gives no field another column, and takes none away. -/
theorem Relaid.count_labels (h : Relaid fields t t') {field : String} (hfield : field ∈ fields) :
    t'.labels.count field = t.labels.count field := by
  cases h with
  | arrange places hplaces => exact ((arrange_perm hplaces).map Text.lower).count_eq field
  | respell names hnames => rw [labels, hnames, labels]
  | insert place name cells hname hplace hcells =>
    have hne : Text.lower name ≠ field := fun heq => hname (heq ▸ hfield)
    have hplace' : place ≤ t.labels.length := by rwa [labels, List.length_map]
    rw [labels, insertColumn, List.map_insertIdx, ← labels,
      (List.perm_insertIdx _ _ hplace').count_eq, List.count_cons_of_ne hne]

theorem Relaid.isClear (h : Relaid fields t t') (hclear : t.IsClear fields) :
    t'.IsClear fields where
  rectangular := h.isRectangular hclear.rectangular
  single field hfield := h.count_labels hfield ▸ hclear.single field hfield

/-- **Layout does not matter** to a reader: changes of layout, one after the other, leave the view
of a clear table as it is. -/
theorem view_eq_of_relaid (h : Relation.ReflTransGen (Relaid fields) t t')
    (hclear : t.IsClear fields) : t'.view fields = t.view fields := by
  have hrun : t'.IsClear fields ∧ t'.view fields = t.view fields := by
    induction h with
    | refl => exact ⟨hclear, rfl⟩
    | tail _ hstep ih => exact ⟨hstep.isClear ih.1, (hstep.view_eq ih.1).trans ih.2⟩
  exact hrun.2

end Table

/-! ### Readers -/

namespace Listing

/-- The fields of a row of a listing. -/
def rowFields : List String :=
  ["database_name", "schema_name", "name", "kind", "is_dynamic", "is_iceberg"]

/-- The reader of a listing reads a view only. -/
theorem Row.ofTable_eq (t : Table) : Row.ofTable t = (t.view rowFields).map fun seen =>
    { database := seen ⟨"database_name", by decide⟩, schema := seen ⟨"schema_name", by decide⟩,
      name := seen ⟨"name", by decide⟩, kind := seen ⟨"kind", by decide⟩,
      isDynamic := seen ⟨"is_dynamic", by decide⟩,
      isIceberg := seen ⟨"is_iceberg", by decide⟩ } := by
  rw [Table.view, List.map_map]
  rfl

theorem relationsOf_congr {t t' : Table} (h : t'.view rowFields = t.view rowFields) :
    relationsOf t' = relationsOf t := by
  rw [relationsOf, relationsOf, Row.ofTable_eq, Row.ofTable_eq, h]

theorem Row.ofTable_arrange (t : Table) (places : List Nat) :
    Row.ofTable { t with rows := arrange places t.rows } = arrange places (Row.ofTable t) :=
  (arrange_map _ places t.rows).symm

/-- Rows in another order list the relations in that order. -/
theorem relationsOf_arrange {t : Table} {rs : List Relation} (places : List Nat)
    (h : relationsOf t = .ok rs) :
    relationsOf { t with rows := arrange places t.rows } = .ok (arrange places rs) := by
  rw [relationsOf_eq_ok_iff, Row.ofTable_arrange]
  exact forall₂_arrange places (relationsOf_eq_ok_iff.mp h)

end Listing

namespace Snowflake

/-- The fields of a column in an answer. -/
def columnFields : List String := ["column_name", "data_type", "ordinal_position"]

/-- The column that a row is seen to hold. -/
def columnSeen (index : Nat) (seen : { field // field ∈ columnFields } → Value) :
    Except FetchError Column := do
  let some name := (seen ⟨"column_name", by decide⟩).cellText?
    | throw ⟨.invalidResponse, "Missing COLUMN_NAME"⟩
  let some dataType := (seen ⟨"data_type", by decide⟩).cellText?
    | throw ⟨.invalidResponse, "Missing DATA_TYPE"⟩
  return ⟨name, dataType, (seen ⟨"ordinal_position", by decide⟩).count?.getD (index + 1)⟩

/-- The reader of columns reads a view only, and the places of the rows. -/
theorem columnsOf_eq (t : Table) : columnsOf t
    = ((t.view columnFields).mapIdx fun i seen => (i, seen)).mapM fun r => columnSeen r.1 r.2 := by
  have hview : (t.view columnFields).mapIdx (fun i seen => (i, seen))
      = (t.rows.mapIdx fun i row => (i, row)).map fun r => (r.1, t.seen columnFields r.2) := by
    refine List.ext_getElem (by simp [Table.view]) fun i _ _ => ?_
    simp [Table.view]
  rw [hview, List.mapM_map]
  rfl

theorem columnsOf_congr {t t' : Table} (h : t'.view columnFields = t.view columnFields) :
    columnsOf t' = columnsOf t := by rw [columnsOf_eq, columnsOf_eq, h]

end Snowflake

/-- **The layout of a result table is irrelevant.** When no row is short or long and no two names
agree in lower case, columns in another order, names in another case and further columns change
neither the relations that a table lists nor the columns that it tells of, nor the failure in their
place. Rows in another order list the same relations in that order. -/
theorem layout_irrelevant :
    (∀ t t' : Table, t.IsRectangular → t.labels.Nodup →
      (Relation.ReflTransGen (Table.Relaid Listing.rowFields) t t' →
          Listing.relationsOf t' = Listing.relationsOf t)
        ∧ (Relation.ReflTransGen (Table.Relaid Snowflake.columnFields) t t' →
          Snowflake.columnsOf t' = Snowflake.columnsOf t))
      ∧ ∀ (t : Table) (rs : List Relation) (places : List Nat), Listing.relationsOf t = .ok rs →
          Listing.relationsOf { t with rows := arrange places t.rows }
            = .ok (arrange places rs) := by
  refine ⟨fun t t' hrectangular hnodup => ?_, fun t rs places h => ?_⟩
  · have hclear := Table.isClear_of_nodup hrectangular hnodup
    exact ⟨fun h => Listing.relationsOf_congr (Table.view_eq_of_relaid h (hclear _)),
      fun h => Snowflake.columnsOf_congr (Table.view_eq_of_relaid h (hclear _))⟩
  · exact Listing.relationsOf_arrange places h

/-- Columns and rows may be reversed, names spelled in upper case, and owners added. -/
theorem layout_irrelevant_reversed :
    let t : Table := ⟨["name", "column_name", "data_type"],
      [[.text "orders", .text "id", .text "NUMBER"], [.text "items", .text "sku", .text "TEXT"]]⟩
    let t' : Table := ⟨["DATA_TYPE", "Owner", "COLUMN_NAME", "NAME"],
      [[.text "NUMBER", .text "ann", .text "id", .text "orders"],
        [.text "TEXT", .text "bob", .text "sku", .text "items"]]⟩
    let listed (name : String) : Relation :=
      { database := none, schema := none, identifier := name, kind := .external }
    Listing.relationsOf t' = Listing.relationsOf t
      ∧ Snowflake.columnsOf t' = Snowflake.columnsOf t
      ∧ Listing.relationsOf { t with rows := t.rows.reverse }
        = .ok [listed "items", listed "orders"] := by
  intro t t' listed
  let reversed := t.arrangeColumns [2, 1, 0]
  let respelled : Table := { reversed with columns := ["DATA_TYPE", "COLUMN_NAME", "NAME"] }
  have hrelaid : ∀ fields, Text.lower "Owner" ∉ fields →
      Relation.ReflTransGen (Table.Relaid fields) t t' := by
    intro fields hfields
    have harrange : Table.Relaid fields t reversed := .arrange [2, 1, 0] (by decide)
    have hrespell : Table.Relaid fields reversed respelled := .respell _ (by decide +kernel)
    have hinsert : Table.Relaid fields respelled t' :=
      .insert 1 "Owner" [.text "ann", .text "bob"] hfields (by decide) rfl
    exact ((Relation.ReflTransGen.single harrange).tail hrespell).tail hinsert
  obtain ⟨hlayout, hrows⟩ := layout_irrelevant
  obtain ⟨hrelations, hcolumns⟩ := hlayout t t' (by decide) (by decide +kernel)
  refine ⟨hrelations (hrelaid _ (by decide +kernel)), hcolumns (hrelaid _ (by decide +kernel)), ?_⟩
  exact hrows t [listed "orders", listed "items"] [1, 0] (by decide +kernel)

end SchemaDrift
