import SchemaDrift.Column
import SchemaDrift.Text.AsciiCase

/-!
# Drift between two lists of columns

The drift between the columns that a relation has and the columns that the next load brings,
both compared by key:

* **added**: the columns of the load whose key the relation lacks, in the order of the load,
  the first column of each key;
* **removed**: the columns of the relation whose key the load lacks, in the order of the
  relation;
* **retyped**: the columns on both sides whose types differ by more than ASCII case. They are
  reported and never acted on, so they do not make a drift on their own.

## Main laws

* `mem_map_key_firstOfEachKey`: the keys added are those of the load that are not known.
* `nodup_map_key_firstOfEachKey`: no key is added twice.
-/

namespace SchemaDrift

/-- A column that has one type in the relation and another in the load. -/
structure Retyped where
  name : String
  existingType : String
  incomingType : String
deriving DecidableEq, Repr

/-- The **drift** between two lists of columns. -/
structure Drift where
  added : List Column
  removed : List Column
  retyped : List Retyped
deriving DecidableEq, Repr

namespace Drift

/-- The columns whose key is not known and did not occur before. -/
def firstOfEachKey (e : Engine) (known : List String) : List Column → List Column
  | [] => []
  | c :: cs =>
    if c.key e ∈ known then firstOfEachKey e known cs
    else c :: firstOfEachKey e (c.key e :: known) cs

/-- The keys of the columns kept are those that are not known. -/
theorem mem_map_key_firstOfEachKey {e : Engine} {known : List String} {cs : List Column}
    {k : String} :
    k ∈ (firstOfEachKey e known cs).map (·.key e) ↔ k ∈ cs.map (·.key e) ∧ k ∉ known := by
  induction cs generalizing known with
  | nil => simp [firstOfEachKey]
  | cons c cs ih =>
    by_cases hc : c.key e ∈ known
    · simp only [firstOfEachKey, if_pos hc, ih, List.map_cons, List.mem_cons]
      refine ⟨fun h => ⟨.inr h.1, h.2⟩, fun h => ⟨?_, h.2⟩⟩
      rcases h.1 with rfl | h1
      · exact absurd hc h.2
      · exact h1
    · simp only [firstOfEachKey, if_neg hc, List.map_cons, List.mem_cons, ih]
      by_cases hk : k = c.key e
      · subst hk
        simp [hc]
      · simp [hk]

/-- No key is kept twice. -/
theorem nodup_map_key_firstOfEachKey (e : Engine) (known : List String) (cs : List Column) :
    ((firstOfEachKey e known cs).map (·.key e)).Nodup := by
  induction cs generalizing known with
  | nil => simp [firstOfEachKey]
  | cons c cs ih =>
    by_cases hc : c.key e ∈ known
    · simpa [firstOfEachKey, hc] using ih known
    · simp only [firstOfEachKey, if_neg hc, List.map_cons, List.nodup_cons]
      refine ⟨fun h => ?_, ih _⟩
      exact (mem_map_key_firstOfEachKey.mp h).2 List.mem_cons_self

/-- A column of the relation whose type differs from that of the first column with its key in
the load. -/
def retyped? (e : Engine) (incoming : List Column) (c : Column) : Option Retyped :=
  match incoming.find? fun d => d.key e = c.key e with
  | some d =>
    if Text.eqIgnoringCase d.dataType c.dataType then none
    else some ⟨c.name, c.dataType, d.dataType⟩
  | none => none

/-- The drift between the columns of a relation and those of a load. -/
def between (e : Engine) (existing incoming : List Column) : Drift where
  added := firstOfEachKey e (existing.map (·.key e)) incoming
  removed := existing.filter fun c => c.key e ∉ incoming.map (·.key e)
  retyped := existing.filterMap (retyped? e incoming)

/-- Whether the names agree; types do not count. -/
def isEmpty (d : Drift) : Bool := d.added.isEmpty && d.removed.isEmpty

/-- The drift of two lists that agree. -/
def none : Drift := ⟨[], [], []⟩

/-- The names of the columns added. -/
def addedNames (d : Drift) : List String := d.added.map (·.name)

/-- The names of the columns removed. -/
def removedNames (d : Drift) : List String := d.removed.map (·.name)

end Drift

/-! ### As data -/

/-- A change of type as data. -/
def Retyped.toData (r : Retyped) : Data :=
  .record [("name", .text r.name), ("existing_type", .text r.existingType),
    ("incoming_type", .text r.incomingType)]

/-- Read a change of type. -/
def Retyped.ofData? (form : Form) (d : Data) : Option Retyped := do
  let f ← d.fields? form ["name", "existing_type", "incoming_type"]
  let name ← f.required "name" Data.text?
  let existingType ← f.required "existing_type" Data.text?
  let incomingType ← f.required "incoming_type" Data.text?
  return ⟨name, existingType, incomingType⟩

/-- A drift as data. -/
def Drift.toData (d : Drift) : Data :=
  .record [("added", Column.listToData d.added), ("removed", Column.listToData d.removed),
    ("type_changed", .list (d.retyped.map Retyped.toData))]

/-- Read a drift. -/
def Drift.ofData? (form : Form) (d : Data) : Option Drift := do
  let f ← d.fields? form ["added", "removed", "type_changed"]
  let added ← f.required "added" (Column.listOfData? form)
  let removed ← f.required "removed" (Column.listOfData? form)
  let retyped ← f.required "type_changed" (Data.list? (Retyped.ofData? form))
  return ⟨added, removed, retyped⟩

end SchemaDrift
