import Mathlib.Data.List.Perm.Basic
import SchemaDrift.Proofs.Data.Records

/-!
# Records in another order

A text in which data is stored keeps the items of a list in order, but it may move the fields of a
record: in TOML the values of a table stand before the tables in it. And what is null is not
written at all. So what is found in the text is a **rearrangement** of the data without its nulls.

Reading does not notice. Data is **read back** when a reader finds the same in each of these
rearrangements, and this is inherited from the parts of data: by an optional part
(`ReadBack.nullable`), by a list (`ReadBack.list`), by a dictionary, whose entries have an order of
their own (`ReadBack.dictionary`), and by a record. The fields that a reader takes from a record
**tell** it (`Data.exists_fields_tell`), and each of them is found under its name
(`Fields.Tell.exists_find?`), unless it is null (`Fields.Tell.find?_eq_none`).
-/

namespace SchemaDrift

/-- The entries of a dictionary make up that dictionary in any order. -/
theorem Dictionary.ofList_of_perm {α : Type} {es : List (String × α)} {d : Dictionary α}
    (h : es.Perm d.entries) : ofList es = d := by
  have hnodup : (es.map (·.1)).Nodup := (h.map _).nodup_iff.mpr d.nodup_keys
  refine ext_find? fun k v => ?_
  rw [find?_ofList_eq_some_iff hnodup, find?_eq_some_iff, h.mem_iff]

namespace Data

/-! ### Rearranged data -/

/-- Two fields of one name, with data that is related. -/
inductive SameField (R : Data → Data → Prop) : String × Data → String × Data → Prop
  | intro (name : String) {d e : Data} : R d e → SameField R (name, d) (name, e)

section

variable {R : Data → Data → Prop} {fs gs : List (String × Data)}

theorem SameField.map_fst_eq (h : List.Forall₂ (SameField R) fs gs) :
    fs.map (·.1) = gs.map (·.1) := by
  induction h with
  | nil => rfl
  | cons hfield _ ih =>
    obtain ⟨name, -⟩ := hfield
    rw [List.map_cons, List.map_cons, ih]

theorem SameField.exists_mem (h : List.Forall₂ (SameField R) fs gs) {name : String} {d : Data}
    (hmem : (name, d) ∈ fs) : ∃ e, (name, e) ∈ gs ∧ R d e := by
  induction h with
  | nil => cases hmem
  | cons hfield _ ih =>
    obtain ⟨other, hother⟩ := hfield
    rcases List.mem_cons.mp hmem with hhead | htail
    · cases hhead
      exact ⟨_, List.mem_cons_self, hother⟩
    · obtain ⟨e, he, hde⟩ := ih htail
      exact ⟨e, List.mem_cons_of_mem _ he, hde⟩

end

/-- Data **rearranged**: the fields of records stand in another order, at any depth. -/
inductive Rearranged : Data → Data → Prop
  | refl (d : Data) : Rearranged d d
  | list {ds es : List Data} : List.Forall₂ Rearranged ds es → Rearranged (.list ds) (.list es)
  | record {fs gs hs : List (String × Data)} :
      List.Forall₂ (SameField Rearranged) fs gs → gs.Perm hs →
        Rearranged (.record fs) (.record hs)

namespace Rearranged

variable {d e : Data}

theorem eq_text {s : String} (h : Rearranged (.text s) e) : e = .text s := by
  cases h
  rfl

theorem eq_bool {b : Bool} (h : Rearranged (.bool b) e) : e = .bool b := by
  cases h
  rfl

theorem isNull_eq (h : Rearranged d e) : e.isNull = d.isNull := by
  cases h <;> rfl

theorem exists_list {ds : List Data} (h : Rearranged (.list ds) e) :
    ∃ es, e = .list es ∧ List.Forall₂ Rearranged ds es := by
  cases h with
  | refl => exact ⟨ds, rfl, List.forall₂_same.mpr fun d _ => .refl d⟩
  | list hes => exact ⟨_, rfl, hes⟩

theorem exists_record {fs : List (String × Data)} (h : Rearranged (.record fs) e) :
    ∃ hs gs, e = .record hs ∧ List.Forall₂ (SameField Rearranged) fs gs ∧ gs.Perm hs := by
  cases h with
  | refl => exact ⟨fs, fs, rfl, List.forall₂_same.mpr fun f _ => ⟨f.1, .refl f.2⟩, .refl fs⟩
  | record hgs hperm => exact ⟨_, _, rfl, hgs, hperm⟩

/-- The names of a record are those of the record rearranged. -/
theorem perm_names {fs hs : List (String × Data)} (h : Rearranged (.record fs) (.record hs)) :
    (fs.map (·.1)).Perm (hs.map (·.1)) := by
  obtain ⟨_, gs, heq, hgs, hperm⟩ := h.exists_record
  cases heq
  rw [SameField.map_fst_eq hgs]
  exact hperm.map _

/-- Each field of a record is a field of the record rearranged. -/
theorem exists_mem {fs hs : List (String × Data)} (h : Rearranged (.record fs) (.record hs))
    {name : String} (hmem : (name, d) ∈ fs) : ∃ e, (name, e) ∈ hs ∧ d.Rearranged e := by
  obtain ⟨_, gs, heq, hgs, hperm⟩ := h.exists_record
  cases heq
  obtain ⟨e, he, hde⟩ := SameField.exists_mem hgs hmem
  exact ⟨e, hperm.mem_iff.mp he, hde⟩

/-- The fields with certain names are rearranged as a record of their own. -/
theorem filter {fs hs : List (String × Data)} (h : Rearranged (.record fs) (.record hs))
    (p : String → Bool) :
    Rearranged (.record (fs.filter fun f => p f.1)) (.record (hs.filter fun f => p f.1)) := by
  obtain ⟨_, gs, heq, hgs, hperm⟩ := h.exists_record
  cases heq
  refine .record ?_ (hperm.filter fun f => p f.1)
  refine List.rel_filter (fun f g hfield => ?_) hgs
  obtain ⟨name, -⟩ := hfield
  rfl

end Rearranged

/-! ### Data without nulls -/

theorem itemsWithoutNulls_eq (ds : List Data) : itemsWithoutNulls ds = ds.map withoutNulls := by
  induction ds with
  | nil => rfl
  | cons d ds ih => rw [itemsWithoutNulls, ih, List.map_cons]

theorem fieldsWithoutNulls_eq (fs : List (String × Data)) :
    fieldsWithoutNulls fs
      = (fs.filter fun f => !f.2.isNull).map fun f => (f.1, f.2.withoutNulls) := by
  induction fs with
  | nil => rfl
  | cons f fs ih =>
    rw [fieldsWithoutNulls, ih, List.filter_cons]
    cases f.2.isNull <;> rfl

theorem isNull_withoutNulls (d : Data) : d.withoutNulls.isNull = d.isNull := by
  cases d <;> rfl

/-! ### Data that is read back -/

variable {α : Type} {decode : Data → Option α} {encode : α → Data} {d : Data} {a : α}

theorem mapM_eq_some_iff {β : Type} {f : β → Option α} {bs : List β} {as : List α} :
    bs.mapM f = some as ↔ List.Forall₂ (fun b a => f b = some a) bs as := by
  induction bs generalizing as with
  | nil => simp [eq_comm]
  | cons b bs ih =>
    simp only [List.mapM_cons, Option.bind_eq_bind, Option.bind_eq_some_iff, Option.pure_def,
      Option.some.injEq, ih, List.forall₂_cons_left_iff]
    constructor
    · rintro ⟨a, ha, as, has, rfl⟩
      exact ⟨a, as, ha, has, rfl⟩
    · rintro ⟨a, as, ha, has, rfl⟩
      exact ⟨a, ha, as, has, rfl⟩

/-- Data is **read back** as `a` when that is what a reader finds in the data without its nulls,
however it is rearranged. -/
def ReadBack (decode : Data → Option α) (d : Data) (a : α) : Prop :=
  ∀ e, d.withoutNulls.Rearranged e → decode e = some a

namespace ReadBack

theorem text {s : String} (h : decode (.text s) = some a) : ReadBack decode (.text s) a := by
  intro e he
  rw [Rearranged.eq_text he, h]

theorem bool (b : Bool) : ReadBack bool? (.bool b) b := by
  intro e he
  rw [Rearranged.eq_bool he]
  rfl

/-- What is read back and is not null is read back by a reader that takes null for absence. -/
theorem nullable (hd : d.isNull = false) (h : ReadBack decode d a) :
    ReadBack (nullable? decode) d (some a) := by
  intro e he
  have hnull : e.isNull = false := by rw [he.isNull_eq, isNull_withoutNulls, hd]
  have hread : nullable? decode e = (decode e).map some := by
    cases e with
    | null => cases hnull
    | _ => rfl
  rw [hread, h e he, Option.map_some]

/-- A list is read back when its items are. -/
theorem list {as : List α} (h : ∀ a ∈ as, ReadBack decode (encode a) a) :
    ReadBack (list? decode) (.list (as.map encode)) as := by
  intro e he
  rw [withoutNulls, itemsWithoutNulls_eq, List.map_map] at he
  obtain ⟨es, rfl, hes⟩ := he.exists_list
  have hall := (List.forall₂_and_left _ _).mpr ⟨h, List.forall₂_map_left_iff.mp hes⟩
  have hread : List.Forall₂ (fun a e => decode e = some a) as es :=
    hall.imp fun a e hae => hae.1 e hae.2
  exact mapM_eq_some_iff.mpr hread.flip

/-- A dictionary is read back when its values are, in whatever order the entries are found. -/
theorem dictionary {dict : Dictionary α} (hnull : ∀ a, (encode a).isNull = false)
    (h : ∀ a, ReadBack decode (encode a) a) :
    ReadBack (dictionary? decode) (.record (dict.entries.map fun e => (e.1, encode e.2))) dict := by
  intro e he
  have hstored : fieldsWithoutNulls (dict.entries.map fun e => (e.1, encode e.2))
      = dict.entries.map fun e => (e.1, (encode e.2).withoutNulls) := by
    rw [fieldsWithoutNulls_eq, List.filter_eq_self.mpr, List.map_map]
    · rfl
    · intro f hf
      obtain ⟨e, -, rfl⟩ := List.mem_map.mp hf
      rw [hnull]
      rfl
  rw [withoutNulls, hstored] at he
  obtain ⟨hs, gs, rfl, hgs, hperm⟩ := he.exists_record
  have hread : List.Forall₂ (fun g e => (decode g.2).map (fun a => (g.1, a)) = some e)
      gs dict.entries := by
    refine ((List.forall₂_map_left_iff.mp hgs).imp fun e g hfield => ?_).flip
    obtain ⟨name, hmoved⟩ := hfield
    dsimp only [flip]
    rw [h e.2 _ hmoved, Option.map_some]
  obtain ⟨es, hes, hsame⟩ := List.perm_comp_forall₂ hperm.symm hread
  rw [dictionary?, mapM_eq_some_iff.mpr hes, Option.map_some, Dictionary.ofList_of_perm hsame]

end ReadBack

end Data

/-! ### Fields that are read back -/

/-- Fields **tell** a record, none of whose names occurs twice, when they are its fields without
nulls, rearranged. -/
structure Fields.Tell (f : Fields) (fs : List (String × Data)) : Prop where
  nodup : (fs.map (·.1)).Nodup
  rearranged : (Data.record fs).withoutNulls.Rearranged (.record f.entries)

namespace Fields.Tell

variable {α : Type} {f : Fields} {fs : List (String × Data)} {name : String} {d : Data}
  {decode : Data → Option α} {a : α}

theorem nodup_entries (h : f.Tell fs) : (f.entries.map (·.1)).Nodup := by
  refine h.rearranged.perm_names.nodup_iff.mp ?_
  rw [Data.fieldsWithoutNulls_eq, List.map_map]
  exact h.nodup.sublist (List.filter_sublist.map _)

/-- What is not null is found under its name. -/
theorem exists_find? (h : f.Tell fs) (hmem : (name, d) ∈ fs) (hd : d.isNull = false) :
    ∃ e, f.find? name = some e ∧ d.withoutNulls.Rearranged e := by
  have hstored : (name, d.withoutNulls) ∈ Data.fieldsWithoutNulls fs := by
    rw [Data.fieldsWithoutNulls_eq]
    exact List.mem_map.mpr ⟨_, List.mem_filter.mpr ⟨hmem, by rw [hd]; rfl⟩, rfl⟩
  obtain ⟨e, he, hmoved⟩ := h.rearranged.exists_mem hstored
  exact ⟨e, (find?_eq_some_iff h.nodup_entries).mpr he, hmoved⟩

/-- Nothing is found under the name of a null. -/
theorem find?_eq_none (h : f.Tell fs) (hmem : (name, .null) ∈ fs) : f.find? name = none := by
  refine Option.eq_none_iff_forall_ne_some.mpr fun e he => ?_
  have hfound := (find?_eq_some_iff h.nodup_entries).mp he
  have hname := h.rearranged.perm_names.mem_iff.mpr (List.mem_map.mpr ⟨_, hfound, rfl⟩)
  rw [Data.fieldsWithoutNulls_eq, List.map_map] at hname
  obtain ⟨⟨_, d⟩, hstored, rfl⟩ := List.mem_map.mp hname
  obtain ⟨hd, hnull⟩ := List.mem_filter.mp hstored
  obtain rfl := Dictionary.eq_of_mem_of_mem h.nodup hd hmem
  cases hnull

theorem required (h : f.Tell fs) (hmem : (name, d) ∈ fs) (hd : d.isNull = false)
    (hread : Data.ReadBack decode d a) : f.required name decode = some a := by
  obtain ⟨e, he, hmoved⟩ := h.exists_find? hmem hd
  rw [Fields.required, he, Option.bind_some, hread e hmoved]

theorem defaulted (h : f.Tell fs) (hmem : (name, d) ∈ fs) (hd : d.isNull = false)
    (hread : Data.ReadBack decode d a) (default : α) :
    f.defaulted name default decode = some a := by
  obtain ⟨e, he, hmoved⟩ := h.exists_find? hmem hd
  rw [Fields.defaulted, he]
  exact hread e hmoved

/-- An optional part is read back, whether it is there or not. -/
theorem optionalOrAbsent {encode : α → Data} {o : Option α} (h : f.Tell fs)
    (hmem : (name, .ofOption encode o) ∈ fs) (hnull : ∀ a ∈ o, (encode a).isNull = false)
    (hread : ∀ a ∈ o, Data.ReadBack decode (encode a) a) :
    f.optionalOrAbsent name decode = some o := by
  cases o with
  | none =>
    rw [Fields.optionalOrAbsent, Fields.defaulted, h.find?_eq_none hmem]
  | some a => exact h.defaulted hmem (hnull a rfl) (.nullable (hnull a rfl) (hread a rfl)) none

/-- The fields with other names tell what is stored for them. -/
theorem others (h : f.Tell fs) (names : List String) :
    (Data.record (fs.filter fun g => !names.contains g.1)).withoutNulls.Rearranged
      (.record (f.others names)) := by
  have hothers := h.rearranged.filter fun name => !names.contains name
  rw [Data.fieldsWithoutNulls_eq, List.filter_map] at hothers
  rw [Data.withoutNulls, Data.fieldsWithoutNulls_eq, List.filter_comm]
  exact hothers

end Fields.Tell

/-- The fields that a reader takes from what is stored for a record tell the record. -/
theorem Data.exists_fields_tell {fs : List (String × Data)} (hnodup : (fs.map (·.1)).Nodup)
    {e : Data} (h : (Data.record fs).withoutNulls.Rearranged e) (form : Form)
    (names : List String) :
    ∃ f : Fields, f.Tell fs
      ∧ e.fields? form names = some f ∧ e.namedFields? form names = some f := by
  obtain ⟨hs, -, rfl, -, -⟩ := h.exists_record
  have htell : (⟨form, false, hs⟩ : Fields).Tell fs := ⟨hnodup, h⟩
  exact ⟨_, htell, fields?_of_nodup htell.nodup_entries form names,
    namedFields?_of_nodup htell.nodup_entries form names⟩

end SchemaDrift
