import Mathlib.Data.List.Induction
import SchemaDrift.Drift

/-!
# The two sides of a drift

`Column.newTo` says which columns of a load are new to a relation by looking at places alone: a
column counts when neither the relation nor an earlier place of the load has its key. It keeps
no record of what it has seen, so it is a yardstick for the search that does:

* `firstOfEachKey_eq_newTo`: the search finds exactly the new columns, in the order of the load.
* `firstOfEachKey_of_take`: once some of the columns found are known too, the search finds the
  others. An addition that has been made is not made again.
* `isEmpty_between_iff`: a drift is empty exactly when both lists have the same keys.

The other side needs no search: `Column.missingFrom` lists the columns of the relation that the
load lacks, `Column.keptBy` those that it has.
-/

namespace SchemaDrift

/-- The columns of a load that are **new** to a relation, in the order of the load: neither a
column of the relation nor an earlier column of the load has their key. -/
def Column.newTo (e : Engine) (existing incoming : List Column) : List Column :=
  (incoming.zipIdx.filter fun p =>
    p.1.key e ∉ existing.map (·.key e) ∧ p.1.key e ∉ (incoming.take p.2).map (·.key e)).map (·.1)

/-- The columns of a relation that a load has too. -/
def Column.keptBy (e : Engine) (incoming existing : List Column) : List Column :=
  existing.filter fun c => c.key e ∈ incoming.map (·.key e)

/-- The columns of a relation that a load lacks. -/
def Column.missingFrom (e : Engine) (incoming existing : List Column) : List Column :=
  existing.filter fun c => c.key e ∉ incoming.map (·.key e)

/-- Two lists of columns have the **same keys**, whatever their order and multiplicity. -/
def Column.SameKeys (e : Engine) (cs ds : List Column) : Prop :=
  ∀ k, k ∈ cs.map (·.key e) ↔ k ∈ ds.map (·.key e)

namespace Drift

variable {e : Engine} {known known' : List String}

/-! ### The search for new columns -/

/-- The search depends on which keys are known, not on how they are listed. -/
theorem firstOfEachKey_congr (h : ∀ k, k ∈ known ↔ k ∈ known') (cs : List Column) :
    firstOfEachKey e known cs = firstOfEachKey e known' cs := by
  induction cs generalizing known known' with
  | nil => rfl
  | cons c cs ih =>
    by_cases hc : c.key e ∈ known
    · rw [firstOfEachKey, firstOfEachKey, if_pos hc, if_pos ((h _).mp hc), ih h]
    · have hcons : ∀ k, k ∈ c.key e :: known ↔ k ∈ c.key e :: known' := fun k => by
        rw [List.mem_cons, List.mem_cons, h k]
      rw [firstOfEachKey, firstOfEachKey, if_neg hc, if_neg (mt (h _).mpr hc), ih hcons]

/-- The last column of a load is found unless its key is known or occurred before. -/
theorem firstOfEachKey_append_singleton (cs : List Column) (c : Column) :
    firstOfEachKey e known (cs ++ [c])
      = firstOfEachKey e known cs
        ++ if c.key e ∉ known ∧ c.key e ∉ cs.map (·.key e) then [c] else [] := by
  induction cs generalizing known with
  | nil => by_cases hc : c.key e ∈ known <;> simp [firstOfEachKey, hc]
  | cons d cs ih =>
    by_cases hd : d.key e ∈ known
    · -- a known key is no obstacle that the list of earlier columns adds
      have hiff : (c.key e ∉ known ∧ c.key e ∉ (d :: cs).map (·.key e))
          ↔ (c.key e ∉ known ∧ c.key e ∉ cs.map (·.key e)) := by
        rw [List.map_cons, List.mem_cons, not_or]
        exact ⟨fun h => ⟨h.1, h.2.2⟩, fun h => ⟨h.1, fun heq => h.1 (heq ▸ hd), h.2⟩⟩
      rw [List.cons_append, firstOfEachKey, firstOfEachKey, if_pos hd, if_pos hd, ih]
      simp only [hiff]
    · have hiff : (c.key e ∉ known ∧ c.key e ∉ (d :: cs).map (·.key e))
          ↔ (c.key e ∉ d.key e :: known ∧ c.key e ∉ cs.map (·.key e)) := by
        rw [List.map_cons, List.mem_cons, List.mem_cons, not_or, not_or]
        exact ⟨fun h => ⟨⟨h.2.1, h.1⟩, h.2.2⟩, fun h => ⟨h.1.2, h.1.1, h.2⟩⟩
      rw [List.cons_append, firstOfEachKey, firstOfEachKey, if_neg hd, if_neg hd, ih,
        List.cons_append]
      simp only [hiff]

private theorem newTo_append_singleton (existing cs : List Column) (c : Column) :
    Column.newTo e existing (cs ++ [c])
      = Column.newTo e existing cs
        ++ if c.key e ∉ existing.map (·.key e) ∧ c.key e ∉ cs.map (·.key e) then [c] else [] := by
  -- an earlier column looks at earlier places only, and these are the same in both lists
  have hold : cs.zipIdx.filter (fun p => p.1.key e ∉ existing.map (·.key e)
        ∧ p.1.key e ∉ ((cs ++ [c]).take p.2).map (·.key e))
      = cs.zipIdx.filter fun p => p.1.key e ∉ existing.map (·.key e)
        ∧ p.1.key e ∉ (cs.take p.2).map (·.key e) := by
    refine List.filter_congr fun p hp => ?_
    have hlt : p.2 < cs.length := by
      have := List.snd_lt_of_mem_zipIdx hp
      omega
    rw [List.take_append_of_le_length (Nat.le_of_lt hlt)]
  rw [Column.newTo, List.zipIdx_append, List.filter_append, List.map_append, hold, Column.newTo]
  congr 1
  by_cases hc : c.key e ∉ existing.map (·.key e) ∧ c.key e ∉ cs.map (·.key e)
  · rw [if_pos hc, List.zipIdx_singleton, List.filter_cons_of_pos]
    · rfl
    · simpa using hc
  · rw [if_neg hc, List.zipIdx_singleton, List.filter_cons_of_neg]
    · rfl
    · simpa using hc

/-- The search finds the new columns. -/
theorem firstOfEachKey_eq_newTo (e : Engine) (existing incoming : List Column) :
    firstOfEachKey e (existing.map (·.key e)) incoming = Column.newTo e existing incoming := by
  induction incoming using List.reverseRecOn with
  | nil => rfl
  | append_singleton cs c ih =>
    rw [firstOfEachKey_append_singleton, newTo_append_singleton, ih]

/-- With some of the columns found known as well, the search finds the others. -/
theorem firstOfEachKey_of_take (known : List String) (cs : List Column) (k : Nat) :
    firstOfEachKey e (known ++ ((firstOfEachKey e known cs).take k).map (·.key e)) cs
      = (firstOfEachKey e known cs).drop k := by
  induction cs generalizing known k with
  | nil => simp [firstOfEachKey]
  | cons c cs ih =>
    by_cases hc : c.key e ∈ known
    · rw [firstOfEachKey, firstOfEachKey, if_pos hc, if_pos (List.mem_append_left _ hc), ih]
    · cases k with
      | zero => simp
      | succ k =>
        have hfound : firstOfEachKey e known (c :: cs)
            = c :: firstOfEachKey e (c.key e :: known) cs := by
          rw [firstOfEachKey, if_neg hc]
        have hmem : c.key e ∈ known ++ c.key e
            :: ((firstOfEachKey e (c.key e :: known) cs).take k).map (·.key e) := by
          simp
        rw [hfound, List.take_succ_cons, List.map_cons, List.drop_succ_cons, ← ih,
          firstOfEachKey, if_pos hmem]
        -- the two lists of known keys differ in the place of the key that was found first
        refine firstOfEachKey_congr (fun k => ?_) cs
        rw [List.mem_append, List.mem_append, List.mem_cons, List.mem_cons, or_assoc]
        exact or_left_comm

/-- A load with no key of its own has no new column. -/
theorem firstOfEachKey_eq_nil_iff {cs : List Column} :
    firstOfEachKey e known cs = [] ↔ ∀ k ∈ cs.map (·.key e), k ∈ known := by
  constructor
  · intro h k hk
    by_contra hknown
    have hfound := mem_map_key_firstOfEachKey.mpr ⟨hk, hknown⟩
    rw [h] at hfound
    exact List.not_mem_nil hfound
  · intro h
    by_contra hne
    obtain ⟨c, hc⟩ := List.exists_mem_of_ne_nil _ hne
    obtain ⟨hkey, hnew⟩ := mem_map_key_firstOfEachKey.mp (List.mem_map_of_mem hc)
    exact hnew (h _ hkey)

end Drift

/-! ### The keys on either side -/

namespace Column

variable {e : Engine} {existing incoming : List Column} {k : String}

theorem mem_map_key_newTo : k ∈ (newTo e existing incoming).map (·.key e)
    ↔ k ∈ incoming.map (·.key e) ∧ k ∉ existing.map (·.key e) := by
  rw [← Drift.firstOfEachKey_eq_newTo]
  exact Drift.mem_map_key_firstOfEachKey

theorem nodup_map_key_newTo (e : Engine) (existing incoming : List Column) :
    ((newTo e existing incoming).map (·.key e)).Nodup := by
  rw [← Drift.firstOfEachKey_eq_newTo]
  exact Drift.nodup_map_key_firstOfEachKey e _ incoming

theorem mem_map_key_missingFrom : k ∈ (missingFrom e incoming existing).map (·.key e)
    ↔ k ∈ existing.map (·.key e) ∧ k ∉ incoming.map (·.key e) := by
  simp only [missingFrom, List.mem_map, List.mem_filter, decide_eq_true_iff]
  constructor
  · rintro ⟨c, ⟨hc, hnot⟩, rfl⟩
    exact ⟨⟨c, hc, rfl⟩, hnot⟩
  · rintro ⟨⟨c, hc, rfl⟩, hnot⟩
    exact ⟨c, ⟨hc, hnot⟩, rfl⟩

theorem mem_map_key_keptBy : k ∈ (keptBy e incoming existing).map (·.key e)
    ↔ k ∈ existing.map (·.key e) ∧ k ∈ incoming.map (·.key e) := by
  simp only [keptBy, List.mem_map, List.mem_filter, decide_eq_true_iff]
  constructor
  · rintro ⟨c, ⟨hc, hload⟩, rfl⟩
    exact ⟨⟨c, hc, rfl⟩, hload⟩
  · rintro ⟨⟨c, hc, rfl⟩, hload⟩
    exact ⟨c, ⟨hc, hload⟩, rfl⟩

/-- What a relation keeps and what is new to it have together the keys of the load. -/
theorem sameKeys_keptBy_append_newTo (e : Engine) (existing incoming : List Column) :
    SameKeys e (keptBy e incoming existing ++ newTo e existing incoming) incoming := by
  intro k
  rw [List.map_append, List.mem_append, mem_map_key_keptBy, mem_map_key_newTo]
  constructor
  · rintro (⟨-, hload⟩ | ⟨hload, -⟩) <;> exact hload
  · intro hload
    by_cases hold : k ∈ existing.map (·.key e)
    · exact .inl ⟨hold, hload⟩
    · exact .inr ⟨hload, hold⟩

theorem newTo_eq_nil_iff :
    newTo e existing incoming = [] ↔ ∀ k ∈ incoming.map (·.key e), k ∈ existing.map (·.key e) := by
  rw [← Drift.firstOfEachKey_eq_newTo]
  exact Drift.firstOfEachKey_eq_nil_iff

theorem missingFrom_eq_nil_iff : missingFrom e incoming existing = []
    ↔ ∀ k ∈ existing.map (·.key e), k ∈ incoming.map (·.key e) := by
  rw [missingFrom, List.filter_eq_nil_iff, List.forall_mem_map]
  refine forall₂_congr fun c _ => ?_
  rw [decide_eq_true_iff, not_not]

/-- Two lists have the same keys exactly when neither side has a column that the other lacks. -/
theorem sameKeys_iff : SameKeys e existing incoming
    ↔ newTo e existing incoming = [] ∧ missingFrom e incoming existing = [] := by
  rw [newTo_eq_nil_iff, missingFrom_eq_nil_iff]
  exact ⟨fun h => ⟨fun k => (h k).mpr, fun k => (h k).mp⟩, fun h k => ⟨h.2 k, h.1 k⟩⟩

theorem keptBy_eq_self (h : ∀ k ∈ existing.map (·.key e), k ∈ incoming.map (·.key e)) :
    keptBy e incoming existing = existing :=
  List.filter_eq_self.mpr fun _ hc => decide_eq_true (h _ (List.mem_map_of_mem hc))

/-- Where only keys of either side occur, a key that is not missing is a key of the load. -/
theorem filter_not_missingFrom {cs : List Column}
    (h : ∀ k ∈ cs.map (·.key e), k ∈ existing.map (·.key e) ∨ k ∈ incoming.map (·.key e)) :
    (cs.filter fun c => c.key e ∉ (missingFrom e incoming existing).map (·.key e))
      = keptBy e incoming cs := by
  refine List.filter_congr fun c hc => decide_eq_decide.mpr ?_
  rw [mem_map_key_missingFrom, not_and, not_not]
  rcases h _ (List.mem_map_of_mem hc) with hold | hnew
  · exact ⟨fun hkeep => hkeep hold, fun hkey _ => hkey⟩
  · exact ⟨fun _ => hnew, fun hkey _ => hkey⟩

/-! ### A relation that some columns of the load have been added to -/

theorem keptBy_append {new : List Column}
    (h : ∀ k ∈ new.map (·.key e), k ∈ incoming.map (·.key e)) :
    keptBy e incoming (existing ++ new) = keptBy e incoming existing ++ new := by
  rw [keptBy, List.filter_append, ← keptBy, ← keptBy, keptBy_eq_self h]

theorem missingFrom_append {new : List Column}
    (h : ∀ k ∈ new.map (·.key e), k ∈ incoming.map (·.key e)) :
    missingFrom e incoming (existing ++ new) = missingFrom e incoming existing := by
  rw [missingFrom, List.filter_append, ← missingFrom, ← missingFrom,
    missingFrom_eq_nil_iff.mpr h, List.append_nil]

/-- What remains new after the first new columns have been added are the others. -/
theorem newTo_append_take {new : List Column} (i : Nat)
    (h : new.map (·.key e) = ((newTo e existing incoming).take i).map (·.key e)) :
    newTo e (existing ++ new) incoming = (newTo e existing incoming).drop i := by
  rw [← Drift.firstOfEachKey_eq_newTo] at h
  rw [← Drift.firstOfEachKey_eq_newTo, ← Drift.firstOfEachKey_eq_newTo, List.map_append, h,
    Drift.firstOfEachKey_of_take]

end Column

/-! ### The drift as a whole -/

namespace Drift

variable {e : Engine} {existing incoming : List Column}

theorem added_between : (between e existing incoming).added = Column.newTo e existing incoming :=
  firstOfEachKey_eq_newTo e existing incoming

theorem removed_between :
    (between e existing incoming).removed = Column.missingFrom e incoming existing := rfl

/-- A drift is empty exactly when both lists have the same keys. -/
theorem isEmpty_between_iff :
    (between e existing incoming).isEmpty = true ↔ Column.SameKeys e existing incoming := by
  rw [isEmpty, Bool.and_eq_true, List.isEmpty_iff, List.isEmpty_iff, added_between,
    removed_between, Column.sameKeys_iff]

end Drift

end SchemaDrift
