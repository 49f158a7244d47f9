import SchemaDrift.Data.Basic
import SchemaDrift.Dictionary

/-!
# Kept values

Some data is kept as it came: cells of result tables, settings nobody knows, report metadata.
A **value** is a data tree in which every part is readable and every record has its names
strictly increasing, so that each name occurs once and equal values are written alike.

`Value.of?` brings a data tree into that form: it fails on an unreadable part, and of a
repeated name it keeps the last.

## Main laws

* `Data.isCanonical_of_canonical?`: the form is reached.
* `Data.canonical?_eq_some`: a tree in that form is not changed.
-/

namespace SchemaDrift

namespace Data

mutual

/-- Whether a tree is readable throughout, with strictly increasing names in every record. -/
def isCanonical : Data → Bool
  | .list items => allCanonical items
  | .record fields => fieldsCanonical fields && decide (fields.Pairwise fun a b => a.1 < b.1)
  | .unreadable => false
  | .null | .bool _ | .number _ | .text _ => true

/-- Whether every item is canonical. -/
def allCanonical : List Data → Bool
  | [] => true
  | d :: ds => d.isCanonical && allCanonical ds

/-- Whether every field holds a canonical tree. -/
def fieldsCanonical : List (String × Data) → Bool
  | [] => true
  | (_, d) :: fs => d.isCanonical && fieldsCanonical fs

end

mutual

/-- The canonical form of a tree; `none` when a part of it is unreadable. -/
def canonical? : Data → Option Data
  | .list items => (canonicalItems? items).map .list
  | .record fields => (canonicalFields? fields).map fun fs => .record (Dictionary.ofList fs).entries
  | .unreadable => none
  | .null => some .null
  | .bool b => some (.bool b)
  | .number n => some (.number n)
  | .text s => some (.text s)

/-- The canonical forms of the items. -/
def canonicalItems? : List Data → Option (List Data)
  | [] => some []
  | d :: ds => do
    let d ← d.canonical?
    let ds ← canonicalItems? ds
    return d :: ds

/-- The fields with their trees in canonical form. -/
def canonicalFields? : List (String × Data) → Option (List (String × Data))
  | [] => some []
  | (name, d) :: fs => do
    let d ← d.canonical?
    let fs ← canonicalFields? fs
    return (name, d) :: fs

end

theorem fieldsCanonical_iff {fs : List (String × Data)} :
    fieldsCanonical fs = true ↔ ∀ f ∈ fs, f.2.isCanonical = true := by
  induction fs with
  | nil => simp [fieldsCanonical]
  | cons f fs ih => simp [fieldsCanonical, ih]

mutual

/-- **The canonical form is canonical.** -/
theorem isCanonical_of_canonical? : ∀ {d c : Data}, d.canonical? = some c → c.isCanonical = true
  | .list items, c, h => by
    simp only [canonical?, Option.map_eq_some_iff] at h
    obtain ⟨ds, hds, rfl⟩ := h
    simpa [isCanonical] using allCanonical_of_canonicalItems? hds
  | .record fields, c, h => by
    simp only [canonical?, Option.map_eq_some_iff] at h
    obtain ⟨fs, hfs, rfl⟩ := h
    have hall := fieldsCanonical_iff.mp (fieldsCanonical_of_canonicalFields? hfs)
    have hmem : ∀ f ∈ (Dictionary.ofList fs).entries, f.2.isCanonical = true := fun f hf =>
      hall f (Dictionary.mem_of_find?_ofList (Dictionary.find?_eq_some_iff.mpr hf))
    simp only [isCanonical, Bool.and_eq_true, decide_eq_true_eq]
    exact ⟨fieldsCanonical_iff.mpr hmem, (Dictionary.ofList fs).sorted⟩
  | .unreadable, c, h => by simp [canonical?] at h
  | .null, c, h | .bool _, c, h | .number _, c, h | .text _, c, h => by
    simp only [canonical?, Option.some.injEq] at h
    subst h
    rfl

private theorem allCanonical_of_canonicalItems? :
    ∀ {ds cs : List Data}, canonicalItems? ds = some cs → allCanonical cs = true
  | [], cs, h => by
    simp only [canonicalItems?, Option.some.injEq] at h
    subst h
    rfl
  | d :: ds, cs, h => by
    simp only [canonicalItems?, Option.bind_eq_bind, Option.bind_eq_some_iff, Option.pure_def,
      Option.some.injEq] at h
    obtain ⟨c, hc, cs', hcs, rfl⟩ := h
    simp [allCanonical, isCanonical_of_canonical? hc, allCanonical_of_canonicalItems? hcs]

private theorem fieldsCanonical_of_canonicalFields? :
    ∀ {fs cs : List (String × Data)}, canonicalFields? fs = some cs → fieldsCanonical cs = true
  | [], cs, h => by
    simp only [canonicalFields?, Option.some.injEq] at h
    subst h
    rfl
  | (n, d) :: fs, cs, h => by
    simp only [canonicalFields?, Option.bind_eq_bind, Option.bind_eq_some_iff, Option.pure_def,
      Option.some.injEq] at h
    obtain ⟨c, hc, cs', hcs, rfl⟩ := h
    simp [fieldsCanonical, isCanonical_of_canonical? hc, fieldsCanonical_of_canonicalFields? hcs]

end

mutual

/-- **A canonical tree is its own canonical form.** -/
theorem canonical?_eq_some : ∀ {d : Data}, d.isCanonical = true → d.canonical? = some d
  | .list items, h => by
    simp only [isCanonical] at h
    simp [canonical?, canonicalItems?_eq_some h]
  | .record fields, h => by
    simp only [isCanonical, Bool.and_eq_true, decide_eq_true_eq] at h
    simp [canonical?, canonicalFields?_eq_some h.1, Dictionary.entries_ofList h.2]
  | .unreadable, h => by simp [isCanonical] at h
  | .null, _ | .bool _, _ | .number _, _ | .text _, _ => rfl

private theorem canonicalItems?_eq_some :
    ∀ {ds : List Data}, allCanonical ds = true → canonicalItems? ds = some ds
  | [], _ => rfl
  | d :: ds, h => by
    simp only [allCanonical, Bool.and_eq_true] at h
    simp [canonicalItems?, canonical?_eq_some h.1, canonicalItems?_eq_some h.2]

private theorem canonicalFields?_eq_some :
    ∀ {fs : List (String × Data)}, fieldsCanonical fs = true → canonicalFields? fs = some fs
  | [], _ => rfl
  | (n, d) :: fs, h => by
    simp only [fieldsCanonical, Bool.and_eq_true] at h
    simp [canonicalFields?, canonical?_eq_some h.1, canonicalFields?_eq_some h.2]

end

end Data

/-- A **kept value**: a data tree in canonical form. -/
structure Value where
  data : Data
  canonical : data.isCanonical = true

namespace Value

/-- The value that a data tree says. -/
def of? (d : Data) : Option Value :=
  match h : d.canonical? with
  | some c => some ⟨c, Data.isCanonical_of_canonical? h⟩
  | none => none

/-- The null value. -/
def null : Value := ⟨.null, rfl⟩

instance : Inhabited Value := ⟨null⟩

/-- A text. -/
def text (s : String) : Value := ⟨.text s, rfl⟩

/-- A truth value. -/
def bool (b : Bool) : Value := ⟨.bool b, rfl⟩

/-- An optional text; an absent one is null. -/
def ofOptionText : Option String → Value
  | some s => text s
  | none => null

@[ext] theorem ext {v w : Value} (h : v.data = w.data) : v = w := by
  cases v
  cases w
  simpa using h

theorem data_inj {v w : Value} : v.data = w.data ↔ v = w := ⟨ext, congrArg data⟩

/-- A value is read back from its data tree. -/
@[simp] theorem of?_data (v : Value) : of? v.data = some v := by
  have hv := Data.canonical?_eq_some v.canonical
  unfold of?
  split
  · next c h =>
    rw [hv, Option.some.injEq] at h
    exact congrArg some (ext h.symm)
  · next h => rw [hv] at h; cases h

end Value

end SchemaDrift
