import Mathlib.Data.List.Nodup
import Mathlib.Data.List.Perm.Basic
import SchemaDrift.Proofs.Drift.Additions

/-!
# A drift seen from the other side

The three sides of a drift are found by three different searches: what is added by a filter that
remembers the keys it has passed, what is removed by a plain filter, what is retyped by looking
each column of the relation up in the load. With the two lists exchanged the same drift should
come out with its sides exchanged, and so it does as far as no key occurs twice.

* `newTo_eq_firstByKey`: what is added in one direction is what is removed in the other, of each
  key the first column only.
* `pairwise_disjoint_keys`: no key is on two sides of a drift.
* `exists_mirrored`: where no key occurs twice, the changes of type in one direction are those of
  the other with their types exchanged, in another order.

`between_mirrors` puts them together. The last law needs its hypothesis: every column of the
relation is looked up, but only the first column of a key is found in the load.
-/

namespace SchemaDrift

namespace Column

variable {e : Engine} {cs : List Column}

/-- The **first column of each key**: columns are left out whose key occurs at an earlier place. -/
def firstByKey (e : Engine) (cs : List Column) : List Column :=
  (cs.zipIdx.filter fun p => p.1.key e ∉ (cs.take p.2).map (·.key e)).map (·.1)

/-- The search that knows no key finds the first column of each key. -/
theorem firstOfEachKey_nil (e : Engine) (cs : List Column) :
    Drift.firstOfEachKey e [] cs = firstByKey e cs := by
  have hnew : newTo e [] cs = firstByKey e cs := by
    simp only [newTo, firstByKey, List.map_nil, List.not_mem_nil, not_false_eq_true, true_and]
  rw [← hnew, ← Drift.firstOfEachKey_eq_newTo, List.map_nil]

/-- Where no key occurs twice no column is left out. -/
theorem firstByKey_eq_self (h : (cs.map (·.key e)).Nodup) : firstByKey e cs = cs := by
  rw [← firstOfEachKey_nil]
  -- from the end, for whether a column is left out depends on those before it
  induction cs using List.reverseRecOn with
  | nil => rfl
  | append_singleton cs c ih =>
    rw [List.map_append, List.nodup_append] at h
    obtain ⟨hcs, -, hdisjoint⟩ := h
    have hc : c.key e ∉ cs.map (·.key e) := fun hmem =>
      hdisjoint _ hmem _ (List.mem_singleton_self _) rfl
    rw [Drift.firstOfEachKey_append_singleton, if_pos ⟨List.not_mem_nil, hc⟩, ih hcs]

/-- Where no key occurs twice, a column is found by its key. -/
theorem find?_key_eq_some (h : (cs.map (·.key e)).Nodup) {c : Column} (hc : c ∈ cs) {k : String}
    (hkey : c.key e = k) : cs.find? (fun d => d.key e = k) = some c := by
  have hfound : (cs.find? fun d => d.key e = k).isSome = true :=
    List.find?_isSome.mpr ⟨c, hc, decide_eq_true hkey⟩
  obtain ⟨d, hd⟩ := Option.isSome_iff_exists.mp hfound
  have hdkey : d.key e = k := by simpa using List.find?_some hd
  rw [hd, List.inj_on_of_nodup_map h (List.mem_of_find?_eq_some hd) hc (hdkey.trans hkey.symm)]

end Column

namespace Retyped

variable {e : Engine} {r s : Retyped}

/-- The key of the column that changed its type. -/
def key (e : Engine) (r : Retyped) : String := e.columnKey r.name

/-- Two changes of type **mirror** each other if they are about one key and exchange its types. -/
structure Mirrors (e : Engine) (r s : Retyped) : Prop where
  key : r.key e = s.key e
  existing : r.existingType = s.incomingType
  incoming : r.incomingType = s.existingType

theorem Mirrors.symm (h : Mirrors e r s) : Mirrors e s r :=
  ⟨h.key.symm, h.incoming.symm, h.existing.symm⟩

/-- A change of type with its types exchanged. -/
def mirrored (r : Retyped) : Retyped := ⟨r.name, r.incomingType, r.existingType⟩

/-- What a change of type says, the spelling of the name aside. -/
def gist (e : Engine) (r : Retyped) : String × String × String :=
  (r.key e, r.existingType, r.incomingType)

theorem gist_eq_iff : r.gist e = s.mirrored.gist e ↔ r.Mirrors e s := by
  rw [gist, gist, Prod.ext_iff, Prod.ext_iff]
  exact ⟨fun h => ⟨h.1, h.2.1, h.2.2⟩, fun h => ⟨h.key, h.existing, h.incoming⟩⟩

end Retyped

namespace Drift

variable {e : Engine} {left right : List Column} {c d : Column} {r : Retyped}

/-! ### Added and removed -/

/-- What a search finds that knows some keys, another finds among the columns with other keys. -/
theorem firstOfEachKey_append (seen known : List String) (cs : List Column) :
    firstOfEachKey e (seen ++ known) cs
      = firstOfEachKey e seen (cs.filter fun c => c.key e ∉ known) := by
  induction cs generalizing seen with
  | nil => rfl
  | cons c cs ih =>
    by_cases hknown : c.key e ∈ known
    · have hmem : c.key e ∈ seen ++ known := List.mem_append_right _ hknown
      rw [firstOfEachKey, if_pos hmem, ih, List.filter_cons_of_neg (by simpa using hknown)]
    · -- both searches decide by the keys seen, and both have seen this one afterwards
      rw [List.filter_cons_of_pos (by simpa using hknown), firstOfEachKey, firstOfEachKey,
        ← ih seen, ← ih (c.key e :: seen)]
      simp only [List.mem_append, hknown, or_false, List.cons_append]

/-- What is new in one direction is what is missing in the other, of each key the first column. -/
theorem newTo_eq_firstByKey (e : Engine) (left right : List Column) :
    Column.newTo e left right = Column.firstByKey e (Column.missingFrom e left right) := by
  rw [← Column.firstOfEachKey_nil, ← firstOfEachKey_eq_newTo]
  exact firstOfEachKey_append [] (left.map (·.key e)) right

theorem newTo_eq_missingFrom (hright : (right.map (·.key e)).Nodup) :
    Column.newTo e left right = Column.missingFrom e left right := by
  rw [newTo_eq_firstByKey]
  exact Column.firstByKey_eq_self (hright.sublist (List.filter_sublist.map _))

/-! ### Changes of type -/

theorem retyped?_eq_some_iff : retyped? e right c = some r
    ↔ ∃ d, right.find? (fun d => d.key e = c.key e) = some d
      ∧ Text.eqIgnoringCase d.dataType c.dataType = false
      ∧ ⟨c.name, c.dataType, d.dataType⟩ = r := by
  rw [retyped?]
  cases hfind : right.find? fun d => d.key e = c.key e with
  | none => simp
  | some d => cases htypes : Text.eqIgnoringCase d.dataType c.dataType <;> simp [htypes]

/-- A change of type is one between two columns with the same key. -/
theorem exists_of_mem_retyped (h : r ∈ (between e left right).retyped) :
    ∃ c ∈ left, ∃ d ∈ right, d.key e = c.key e
      ∧ Text.eqIgnoringCase d.dataType c.dataType = false
      ∧ ⟨c.name, c.dataType, d.dataType⟩ = r := by
  obtain ⟨c, hc, hr⟩ := List.mem_filterMap.mp h
  obtain ⟨d, hd, htypes, rfl⟩ := retyped?_eq_some_iff.mp hr
  have hkey : d.key e = c.key e := by simpa using List.find?_some hd
  exact ⟨c, hc, d, List.mem_of_find?_eq_some hd, hkey, htypes, rfl⟩

/-- Where no key of the load occurs twice, all such changes are reported. -/
theorem mem_retyped (hright : (right.map (·.key e)).Nodup) (hc : c ∈ left) (hd : d ∈ right)
    (hkey : d.key e = c.key e) (htypes : Text.eqIgnoringCase d.dataType c.dataType = false) :
    ⟨c.name, c.dataType, d.dataType⟩ ∈ (between e left right).retyped :=
  List.mem_filterMap.mpr ⟨c, hc, retyped?_eq_some_iff.mpr
    ⟨d, Column.find?_key_eq_some hright hd hkey, htypes, rfl⟩⟩

/-- A change of type is mirrored in the other direction if every column can be found there. -/
theorem exists_mirrors_mem (hleft : (left.map (·.key e)).Nodup)
    (h : r ∈ (between e left right).retyped) :
    ∃ s ∈ (between e right left).retyped, r.Mirrors e s := by
  obtain ⟨c, hc, d, hd, hkey, htypes, rfl⟩ := exists_of_mem_retyped h
  rw [Text.eqIgnoringCase_comm] at htypes
  exact ⟨_, mem_retyped hleft hd hc hkey.symm htypes, hkey.symm, rfl, rfl⟩

/-- The keys of the changes are those of some columns of the relation, in their order. -/
theorem map_key_retyped_sublist (e : Engine) (left right : List Column) :
    ((between e left right).retyped.map (·.key e)).Sublist (left.map (·.key e)) := by
  rw [between]
  induction left with
  | nil => exact List.Sublist.refl _
  | cons c left ih =>
    cases hr : retyped? e right c with
    | none =>
      rw [List.filterMap_cons_none hr]
      exact ih.cons _
    | some r =>
      obtain ⟨d, -, -, rfl⟩ := retyped?_eq_some_iff.mp hr
      rw [List.filterMap_cons_some hr]
      exact ih.cons_cons _

/-- Where no key occurs twice, changes that are told by their keys are told once. -/
theorem nodup_map_retyped {α : Type} (hleft : (left.map (·.key e)).Nodup)
    {f : Retyped → String × α} (hf : ∀ r, (f r).1 = r.key e) :
    ((between e left right).retyped.map f).Nodup := by
  have hkeys : Prod.fst ∘ f = (·.key e) := funext hf
  refine List.Nodup.of_map Prod.fst ?_
  rw [List.map_map, hkeys]
  exact hleft.sublist (map_key_retyped_sublist e left right)

/-- Where no key occurs twice, both directions tell the same changes, one of them mirrored. -/
theorem map_gist_perm (hleft : (left.map (·.key e)).Nodup) (hright : (right.map (·.key e)).Nodup) :
    ((between e left right).retyped.map (·.gist e)).Perm
      ((between e right left).retyped.map (·.mirrored.gist e)) := by
  -- neither direction tells a change twice, so it is enough that they tell the same ones
  refine (List.perm_ext_iff_of_nodup (nodup_map_retyped hleft fun _ => rfl)
    (nodup_map_retyped hright fun _ => rfl)).mpr fun x => ?_
  rw [List.mem_map, List.mem_map]
  constructor
  · rintro ⟨r, hr, rfl⟩
    obtain ⟨s, hs, h⟩ := exists_mirrors_mem hleft hr
    exact ⟨s, hs, (Retyped.gist_eq_iff.mpr h).symm⟩
  · rintro ⟨s, hs, rfl⟩
    obtain ⟨r, hr, h⟩ := exists_mirrors_mem hright hs
    exact ⟨r, hr, Retyped.gist_eq_iff.mpr h.symm⟩

/-- Where no key occurs twice, the changes of type are those of the other direction, mirrored. -/
theorem exists_mirrored (hleft : (left.map (·.key e)).Nodup)
    (hright : (right.map (·.key e)).Nodup) :
    ∃ rs, rs.Perm (between e right left).retyped
      ∧ List.Forall₂ (Retyped.Mirrors e) (between e left right).retyped rs := by
  have htold : List.Forall₂ (fun x s => x = Retyped.gist e (Retyped.mirrored s))
      ((between e right left).retyped.map (·.mirrored.gist e)) (between e right left).retyped :=
    List.forall₂_map_left_iff.mpr (List.forall₂_same.mpr fun _ _ => rfl)
  -- the order in which one direction tells the changes is carried over to the other
  obtain ⟨rs, hrs, hperm⟩ := List.perm_comp_forall₂ (map_gist_perm hleft hright) htold
  refine ⟨rs, hperm, ?_⟩
  exact (List.forall₂_map_left_iff.mp hrs).imp fun _ _ => Retyped.gist_eq_iff.mp

/-! ### The sides of a drift -/

/-- No key is on two sides of a drift. -/
theorem pairwise_disjoint_keys (e : Engine) (left right : List Column) :
    [(between e left right).added.map (·.key e), (between e left right).removed.map (·.key e),
      (between e left right).retyped.map (·.key e)].Pairwise List.Disjoint := by
  have hadded : ∀ k ∈ (between e left right).added.map (·.key e), k ∉ left.map (·.key e) := by
    intro k hk
    rw [added_between] at hk
    exact (Column.mem_map_key_newTo.mp hk).2
  have hremoved : ∀ k ∈ (between e left right).removed.map (·.key e),
      k ∈ left.map (·.key e) ∧ k ∉ right.map (·.key e) :=
    fun k hk => Column.mem_map_key_missingFrom.mp hk
  have hretyped : ∀ k ∈ (between e left right).retyped.map (·.key e),
      k ∈ left.map (·.key e) ∧ k ∈ right.map (·.key e) := by
    intro k hk
    obtain ⟨r, hr, rfl⟩ := List.mem_map.mp hk
    obtain ⟨c, hc, d, hd, hkey, -, rfl⟩ := exists_of_mem_retyped hr
    exact ⟨List.mem_map.mpr ⟨c, hc, rfl⟩, List.mem_map.mpr ⟨d, hd, hkey⟩⟩
  simp only [List.pairwise_cons, List.mem_cons, List.not_mem_nil, or_false, forall_eq_or_imp,
    forall_eq, IsEmpty.forall_iff, implies_true, List.Pairwise.nil, and_true]
  refine ⟨⟨?_, ?_⟩, ?_⟩
  · exact fun k hk hk' => hadded k hk (hremoved k hk').1
  · exact fun k hk hk' => hadded k hk (hretyped k hk').1
  · exact fun k hk hk' => (hremoved k hk).2 (hretyped k hk').2

/-- **The mirror law of drifts.** What is added in one direction is what is removed in the other,
of each key the first column; no key is on two sides of a drift; and where no key occurs twice,
the two directions have their sides exchanged, changes of type up to their order. -/
theorem between_mirrors (e : Engine) (left right : List Column) :
    (between e left right).added = Column.firstByKey e (between e right left).removed
      ∧ [(between e left right).added.map (·.key e), (between e left right).removed.map (·.key e),
          (between e left right).retyped.map (·.key e)].Pairwise List.Disjoint
      ∧ ((left.map (·.key e)).Nodup → (right.map (·.key e)).Nodup →
          (between e left right).added = (between e right left).removed
            ∧ (between e left right).removed = (between e right left).added
            ∧ ∃ rs, rs.Perm (between e right left).retyped
              ∧ List.Forall₂ (Retyped.Mirrors e) (between e left right).retyped rs) := by
  refine ⟨?_, pairwise_disjoint_keys e left right, fun hleft hright => ⟨?_, ?_, ?_⟩⟩
  · rw [added_between, removed_between, newTo_eq_firstByKey]
  · rw [added_between, removed_between, newTo_eq_missingFrom hright]
  · rw [added_between, removed_between, newTo_eq_missingFrom hleft]
  · exact exists_mirrored hleft hright

/-- The columns of a table of bookings. -/
def bookings : List Column := [⟨"ID", "INT", 1⟩, ⟨"total", "FLOAT", 2⟩, ⟨"note", "TEXT", 3⟩]

/-- A load that changes the types of two columns and has them in another order. -/
def bookingLoad : List Column :=
  [⟨"\"TOTAL\"", "NUMERIC", 1⟩, ⟨"id", "TEXT", 2⟩, ⟨"paid", "DATE", 3⟩]

/-- The two directions tell the changes in another order and with other spellings. -/
theorem between_mirrors_bookings :
    (bookings.map (·.key Dialect.postgres.engine)).Nodup
      ∧ (bookingLoad.map (·.key Dialect.postgres.engine)).Nodup
      ∧ (between Dialect.postgres.engine bookings bookingLoad).retyped
        = [⟨"ID", "INT", "TEXT"⟩, ⟨"total", "FLOAT", "NUMERIC"⟩]
      ∧ (between Dialect.postgres.engine bookingLoad bookings).retyped
        = [⟨"\"TOTAL\"", "NUMERIC", "FLOAT"⟩, ⟨"id", "TEXT", "INT"⟩]
      ∧ ∃ rs, rs.Perm (between Dialect.postgres.engine bookingLoad bookings).retyped
        ∧ List.Forall₂ (Retyped.Mirrors Dialect.postgres.engine)
            (between Dialect.postgres.engine bookings bookingLoad).retyped rs := by
  have hleft : (bookings.map (·.key Dialect.postgres.engine)).Nodup := by decide +kernel
  have hright : (bookingLoad.map (·.key Dialect.postgres.engine)).Nodup := by decide +kernel
  obtain ⟨-, -, hmirror⟩ := between_mirrors Dialect.postgres.engine bookings bookingLoad
  obtain ⟨-, -, hretyped⟩ := hmirror hleft hright
  exact ⟨hleft, hright, by decide +kernel, by decide +kernel, hretyped⟩

/-- A column that is there twice changes its type twice in one direction and once in the other. -/
example :
    let twice : List Column := [⟨"note", "TEXT", 1⟩, ⟨"NOTE", "CLOB", 2⟩]
    let once : List Column := [⟨"note", "STRING", 1⟩]
    (between Dialect.ansi.engine twice once).retyped.length = 2
      ∧ (between Dialect.ansi.engine once twice).retyped.length = 1 := by
  decide +kernel

end Drift

end SchemaDrift
