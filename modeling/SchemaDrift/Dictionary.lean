/-!
# Dictionaries in name order

A `Dictionary α` maps names to values. Its entries are kept strictly increasing by name, in
the order of code points, so that two dictionaries with the same entries are equal and the
order in which names are listed never depends on the order in which they were written.

## Main laws

* `find?_insert`: a name written last is what a search for it finds, and no other search
  notices.
* `find?_ofList`: reading a list of entries keeps the last entry of each name.
* `keys_sorted`: the names are strictly increasing.
* `ext_find?`: a dictionary is what searches find in it.
-/

namespace SchemaDrift

universe u v

/-- A finite map from names, listed in strictly increasing name order. -/
structure Dictionary (α : Type u) where
  entries : List (String × α)
  sorted : entries.Pairwise fun a b => a.1 < b.1

namespace Dictionary

variable {α : Type u} {β : Type v}

/-! ### Insertion into a sorted list of entries -/

/-- Write an entry in its place, over an entry of the same name. -/
def insertEntry (k : String) (v : α) : List (String × α) → List (String × α)
  | [] => [(k, v)]
  | e :: es =>
    if k < e.1 then (k, v) :: e :: es
    else if k = e.1 then (k, v) :: es
    else e :: insertEntry k v es

theorem mem_insertEntry {k : String} {v : α} {es : List (String × α)} {e : String × α}
    (h : e ∈ insertEntry k v es) : e = (k, v) ∨ e ∈ es := by
  induction es with
  | nil => simpa [insertEntry] using h
  | cons a es ih =>
    simp only [insertEntry] at h
    split at h
    · simpa using h
    · split at h
      · rcases List.mem_cons.mp h with h | h
        · exact .inl h
        · exact .inr (List.mem_cons_of_mem _ h)
      · rcases List.mem_cons.mp h with h | h
        · exact .inr (h ▸ List.mem_cons_self)
        · exact (ih h).imp id (List.mem_cons_of_mem _)

private theorem gt_of_not_lt_ne {a b : String} (h : ¬a < b) (hne : a ≠ b) : b < a := by
  refine Decidable.byContradiction fun hba => hne ?_
  exact String.le_antisymm (String.not_lt.mp hba) (String.not_lt.mp h)

theorem pairwise_insertEntry (k : String) (v : α) {es : List (String × α)}
    (h : es.Pairwise fun a b => a.1 < b.1) :
    (insertEntry k v es).Pairwise fun a b => a.1 < b.1 := by
  induction es with
  | nil => simp [insertEntry]
  | cons a es ih =>
    obtain ⟨ha, hes⟩ := List.pairwise_cons.mp h
    simp only [insertEntry]
    split
    · next hk =>
      refine List.pairwise_cons.mpr ⟨fun b hb => ?_, h⟩
      rcases List.mem_cons.mp hb with rfl | hb
      · exact hk
      · exact String.lt_trans hk (ha b hb)
    · next hk =>
      split
      · next hka => exact List.pairwise_cons.mpr ⟨fun b hb => hka ▸ ha b hb, hes⟩
      · next hka =>
        refine List.pairwise_cons.mpr ⟨fun b hb => ?_, ih hes⟩
        rcases mem_insertEntry hb with rfl | hb
        · exact gt_of_not_lt_ne hk hka
        · exact ha b hb

/-- A search looks at the first entry, then at the others. -/
theorem lookup_cons_eq (k : String) (e : String × α) (es : List (String × α)) :
    (e :: es).lookup k = if k = e.1 then some e.2 else es.lookup k := by
  by_cases h : k = e.1
  · rw [List.lookup_cons, beq_iff_eq.mpr h, if_pos h]
  · rw [List.lookup_cons, beq_eq_false_iff_ne.mpr h, if_neg h]

/-- Where no name occurs twice, a search finds exactly what is listed. -/
theorem lookup_eq_some_iff_mem {es : List (String × α)} (h : (es.map (·.1)).Nodup) {k : String}
    {v : α} : es.lookup k = some v ↔ (k, v) ∈ es := by
  induction es with
  | nil => simp
  | cons e es ih =>
    obtain ⟨n, w⟩ := e
    rw [List.map_cons, List.nodup_cons] at h
    rw [lookup_cons_eq, List.mem_cons, Prod.mk.injEq]
    by_cases hk : k = n
    · subst hk
      have hother : (k, v) ∉ es := fun hmem => h.1 (List.mem_map.mpr ⟨_, hmem, rfl⟩)
      simp [hother, eq_comm]
    · simp [hk, ih h.2]

/-- Where no name occurs twice, it has one value. -/
theorem eq_of_mem_of_mem {es : List (String × α)} (h : (es.map (·.1)).Nodup) {k : String}
    {v w : α} (hv : (k, v) ∈ es) (hw : (k, w) ∈ es) : v = w := by
  have hfind := (lookup_eq_some_iff_mem h).mpr hv
  rw [(lookup_eq_some_iff_mem h).mpr hw] at hfind
  exact (Option.some.inj hfind).symm

theorem lookup_insertEntry (k k' : String) (v : α) (es : List (String × α)) :
    (insertEntry k v es).lookup k' = if k' = k then some v else es.lookup k' := by
  induction es with
  | nil => simp [insertEntry, lookup_cons_eq]
  | cons a es ih =>
    simp only [insertEntry]
    split
    · simp only [lookup_cons_eq]
    · split
      · next hka => by_cases h : k' = k <;> simp [lookup_cons_eq, h, hka ▸ h]
      · next hne =>
        by_cases h : k' = k
        · rw [lookup_cons_eq, ih, if_pos h, if_neg (h ▸ hne), if_pos h]
        · simp [lookup_cons_eq, ih, h]

/-! ### The map interface -/

/-- The dictionary without entries. -/
def empty : Dictionary α := ⟨[], .nil⟩

instance : Inhabited (Dictionary α) := ⟨empty⟩

/-- Write a value under a name, over an earlier one. -/
def insert (d : Dictionary α) (k : String) (v : α) : Dictionary α :=
  ⟨insertEntry k v d.entries, pairwise_insertEntry k v d.sorted⟩

/-- The value under a name. -/
def find? (d : Dictionary α) (k : String) : Option α := d.entries.lookup k

/-- The names, in increasing order. -/
def keys (d : Dictionary α) : List String := d.entries.map (·.1)

/-- The values, in the order of their names. -/
def values (d : Dictionary α) : List α := d.entries.map (·.2)

/-- The number of names. -/
def size (d : Dictionary α) : Nat := d.entries.length

/-- Read a list of entries; the last entry of a name counts. -/
def ofList (es : List (String × α)) : Dictionary α :=
  es.foldl (fun d e => d.insert e.1 e.2) empty

/-- Change every value. -/
def map (f : α → β) (d : Dictionary α) : Dictionary β :=
  ⟨d.entries.map fun e => (e.1, f e.2), List.pairwise_map.mpr d.sorted⟩

instance [DecidableEq α] : DecidableEq (Dictionary α) := fun a b =>
  decidable_of_iff (a.entries = b.entries) <| by
    constructor
    · intro h
      cases a
      cases b
      simpa using h
    · rintro rfl
      rfl

@[ext] theorem ext {a b : Dictionary α} (h : a.entries = b.entries) : a = b := by
  cases a
  cases b
  simpa using h

@[simp] theorem find?_empty (k : String) : (empty : Dictionary α).find? k = none := rfl

@[simp] theorem find?_insert (d : Dictionary α) (k k' : String) (v : α) :
    (d.insert k v).find? k' = if k' = k then some v else d.find? k' :=
  lookup_insertEntry k k' v d.entries

/-- A name is listed exactly when there is a value under it. -/
theorem mem_keys_iff {d : Dictionary α} {k : String} : k ∈ d.keys ↔ ∃ v, d.find? k = some v := by
  rw [keys, find?]
  induction d.entries with
  | nil => simp
  | cons e es ih =>
    rw [lookup_cons_eq, List.map_cons, List.mem_cons, ih]
    by_cases h : k = e.1 <;> simp [h]

/-- The names are strictly increasing. -/
theorem keys_sorted (d : Dictionary α) : d.keys.Pairwise (· < ·) :=
  List.pairwise_map.mpr d.sorted

/-- No name is listed twice. -/
theorem nodup_keys (d : Dictionary α) : d.keys.Nodup := by
  refine d.keys_sorted.imp fun {a b} hlt heq => ?_
  rw [heq] at hlt
  exact String.lt_irrefl b hlt

/-- A search finds exactly the entries. -/
theorem find?_eq_some_iff {d : Dictionary α} {k : String} {v : α} :
    d.find? k = some v ↔ (k, v) ∈ d.entries := lookup_eq_some_iff_mem d.nodup_keys

/-- Dictionaries in which every search finds the same are equal. -/
theorem ext_find? {d d' : Dictionary α}
    (h : ∀ k v, d.find? k = some v ↔ d'.find? k = some v) : d = d' := by
  have hperm : d.entries.Perm d'.entries := by
    have hnodup : ∀ d : Dictionary α, d.entries.Nodup := fun d =>
      List.Pairwise.of_map (·.1) (fun _ _ => mt (congrArg Prod.fst)) d.nodup_keys
    refine (List.perm_ext_iff_of_nodup (hnodup d) (hnodup d')).mpr ?_
    rintro ⟨k, v⟩
    rw [← find?_eq_some_iff, ← find?_eq_some_iff, h]
  refine ext (hperm.eq_of_pairwise (fun a b _ _ hab hba => ?_) d.sorted d'.sorted)
  exact absurd (String.lt_trans hab hba) (String.lt_irrefl a.1)

private theorem find?_foldl_insert (es : List (String × α)) (d : Dictionary α) (k : String) :
    (es.foldl (fun d e => d.insert e.1 e.2) d).find? k
      = (es.reverse.lookup k).or (d.find? k) := by
  induction es generalizing d with
  | nil => simp
  | cons e es ih =>
    obtain ⟨n, v⟩ := e
    rw [List.foldl_cons, ih, List.reverse_cons, List.lookup_append, find?_insert, lookup_cons_eq]
    by_cases h : k = n <;> cases es.reverse.lookup k <;> simp [h]

/-- Reading a list of entries keeps the last entry of each name. -/
theorem find?_ofList (es : List (String × α)) (k : String) :
    (ofList es).find? k = es.reverse.lookup k := by
  simp [ofList, find?_foldl_insert]

/-- What is found was listed. -/
theorem mem_of_find?_ofList {es : List (String × α)} {k : String} {v : α}
    (h : (ofList es).find? k = some v) : (k, v) ∈ es := by
  rw [find?_ofList] at h
  obtain ⟨later, earlier, hsplit, -⟩ := List.lookup_eq_some_iff.mp h
  rw [← List.mem_reverse, hsplit]
  exact List.mem_append_right later List.mem_cons_self

/-- Where no name occurs twice, all entries are kept. -/
theorem find?_ofList_eq_some_iff {es : List (String × α)} (h : (es.map (·.1)).Nodup) {k : String}
    {v : α} : (ofList es).find? k = some v ↔ (k, v) ∈ es := by
  have hreverse : (es.reverse.map (·.1)).Nodup :=
    (es.reverse_perm.map (·.1)).symm.nodup h
  rw [find?_ofList, lookup_eq_some_iff_mem hreverse, List.mem_reverse]

/-- Entries that are sorted already are kept as they are. -/
theorem insertEntry_append {k : String} {v : α} {es : List (String × α)}
    (h : ∀ e ∈ es, e.1 < k) : insertEntry k v es = es ++ [(k, v)] := by
  induction es with
  | nil => rfl
  | cons a es ih =>
    have ha : a.1 < k := h a List.mem_cons_self
    have hlt : ¬k < a.1 := fun hk => String.lt_irrefl _ (String.lt_trans ha hk)
    have hne : k ≠ a.1 := fun hk => String.lt_irrefl _ (hk ▸ ha)
    rw [insertEntry, if_neg hlt, if_neg hne, ih fun e he => h e (List.mem_cons_of_mem _ he)]
    rfl

private theorem entries_foldl_insert {es : List (String × α)} {d : Dictionary α}
    (h : (d.entries ++ es).Pairwise fun a b => a.1 < b.1) :
    (es.foldl (fun d e => d.insert e.1 e.2) d).entries = d.entries ++ es := by
  induction es generalizing d with
  | nil => simp
  | cons e es ih =>
    have hd : (d.insert e.1 e.2).entries = d.entries ++ [e] :=
      insertEntry_append fun a ha => (List.pairwise_append.mp h).2.2 a ha e List.mem_cons_self
    rw [List.foldl_cons, ih (by simpa [hd] using h), hd]
    simp

/-- A sorted list of entries is read as it stands. -/
theorem entries_ofList {es : List (String × α)} (h : es.Pairwise fun a b => a.1 < b.1) :
    (ofList es).entries = es :=
  (entries_foldl_insert (d := empty) (by simpa [empty] using h)).trans (by simp [empty])

@[simp] theorem ofList_entries (d : Dictionary α) : ofList d.entries = d :=
  ext (entries_ofList d.sorted)

end Dictionary

end SchemaDrift
