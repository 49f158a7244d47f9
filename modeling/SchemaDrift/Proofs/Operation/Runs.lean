import SchemaDrift.Operation

/-!
# Runs of operations

What several operations, one after another, do to a list of columns, in closed form:

* `applyAll_map_add`: additions of columns whose keys are new and pairwise different append
  these columns in order and number them on from the length of the list.
* `applyAll_map_drop`: drops keep the columns whose keys are not dropped, numbered from one.
  A run without a drop renumbers nothing, so the empty run is the one exception.

Numbering erases positions: two lists with the same names and types in the same order are
numbered alike (`number_congr`). Every step about positions below goes through that law, so no
proof ever looks at a position.
-/

namespace SchemaDrift

/-! ### Positions -/

namespace Column

/-- What a column is apart from its position: its name and its type. -/
def declaration (c : Column) : String × String := (c.name, c.dataType)

/-- Number columns **on from** a position: the first of them takes the position after it. -/
def numberFrom (n : Nat) (cs : List Column) : List Column :=
  cs.mapIdx fun i c => { c with ordinal := n + i + 1 }

@[simp]
theorem numberFrom_nil (n : Nat) : numberFrom n [] = [] := rfl

@[simp]
theorem length_numberFrom (n : Nat) (cs : List Column) : (numberFrom n cs).length = cs.length := by
  simp [numberFrom]

/-- Numbering a list takes its first position one further on for the rest. -/
theorem numberFrom_cons (n : Nat) (c : Column) (cs : List Column) :
    numberFrom n (c :: cs) = { c with ordinal := n + 1 } :: numberFrom (n + 1) cs := by
  rw [numberFrom, List.mapIdx_cons, numberFrom]
  congr 2
  funext i d
  congr 1
  omega

theorem number_eq_numberFrom (cs : List Column) : number cs = numberFrom 0 cs := by
  rw [number, numberFrom]
  congr 1
  funext i c
  congr 1
  omega

theorem numberFrom_append (n : Nat) (cs ds : List Column) :
    numberFrom n (cs ++ ds) = numberFrom n cs ++ numberFrom (n + cs.length) ds := by
  induction cs generalizing n with
  | nil => rfl
  | cons c cs ih =>
    have hlen : n + (c :: cs).length = n + 1 + cs.length := by
      rw [List.length_cons]
      omega
    rw [List.cons_append, numberFrom_cons, numberFrom_cons, ih (n + 1), hlen]
    rfl

@[simp]
theorem map_declaration_numberFrom (n : Nat) (cs : List Column) :
    (numberFrom n cs).map declaration = cs.map declaration := by
  induction cs generalizing n with
  | nil => rfl
  | cons c cs ih =>
    rw [numberFrom_cons, List.map_cons, ih (n + 1)]
    rfl

@[simp]
theorem map_declaration_number (cs : List Column) :
    (number cs).map declaration = cs.map declaration := by
  rw [number_eq_numberFrom, map_declaration_numberFrom]

/-- Lists with the same names and types are numbered alike. -/
theorem numberFrom_congr {n : Nat} {cs ds : List Column}
    (h : cs.map declaration = ds.map declaration) : numberFrom n cs = numberFrom n ds := by
  induction cs generalizing n ds with
  | nil =>
    have hds : ds = [] := List.map_eq_nil_iff.mp h.symm
    rw [hds]
  | cons c cs ih =>
    obtain ⟨d, ds, rfl, hd, hds⟩ := List.map_eq_cons_iff.mp h.symm
    have hname : d.name = c.name := congrArg Prod.fst hd
    have htype : d.dataType = c.dataType := congrArg Prod.snd hd
    rw [numberFrom_cons, numberFrom_cons, ih hds.symm, hname, htype]

theorem number_congr {cs ds : List Column} (h : cs.map declaration = ds.map declaration) :
    number cs = number ds := by
  rw [number_eq_numberFrom, number_eq_numberFrom, numberFrom_congr h]

theorem number_number (cs : List Column) : number (number cs) = number cs :=
  number_congr (map_declaration_number cs)

/-- A list that is numbered stays so when the columns after its last are numbered on. -/
theorem number_append_numberFrom {cs : List Column} (h : number cs = cs) (ds : List Column) :
    number (cs ++ numberFrom cs.length ds) = cs ++ numberFrom cs.length ds := by
  have hafter : numberFrom cs.length (numberFrom cs.length ds) = numberFrom cs.length ds :=
    numberFrom_congr (map_declaration_numberFrom _ ds)
  rw [number_eq_numberFrom, numberFrom_append, ← number_eq_numberFrom, h, Nat.zero_add, hafter]

/-- The positions in a numbered list. -/
theorem map_ordinal_of_number_eq {cs : List Column} (h : number cs = cs) :
    cs.map (·.ordinal) = List.range' 1 cs.length := by
  have hpositions : (number cs).map (·.ordinal) = List.range' 1 cs.length := by
    refine List.ext_getElem (by simp) fun i _ _ => ?_
    simp [number, Nat.add_comm]
  rwa [h] at hpositions

/-! ### Keys and selections by key depend on names alone -/

theorem map_key_congr (e : Engine) {cs ds : List Column}
    (h : cs.map declaration = ds.map declaration) : cs.map (·.key e) = ds.map (·.key e) := by
  have hkey : ∀ l : List Column,
      l.map (·.key e) = (l.map declaration).map fun d => e.columnKey d.1 := fun l => by
    rw [List.map_map]
    rfl
  rw [hkey cs, hkey ds, h]

@[simp]
theorem map_key_numberFrom (e : Engine) (n : Nat) (cs : List Column) :
    (numberFrom n cs).map (·.key e) = cs.map (·.key e) :=
  map_key_congr e (map_declaration_numberFrom n cs)

/-- Selecting columns by their keys selects their names and types. -/
theorem map_declaration_filter_congr (e : Engine) (p : String → Bool) {cs ds : List Column}
    (h : cs.map declaration = ds.map declaration) :
    (cs.filter fun c => p (c.key e)).map declaration
      = (ds.filter fun c => p (c.key e)).map declaration := by
  have hfilter : ∀ l : List Column, (l.filter fun c => p (c.key e)).map declaration
      = (l.map declaration).filter fun d => p (e.columnKey d.1) := fun l => by
    rw [List.filter_map]
    rfl
  rw [hfilter cs, hfilter ds, h]

/-- Numbering before a selection by key makes no difference to a numbering after it. -/
theorem number_filter_number (e : Engine) (p : String → Bool) (cs : List Column) :
    number ((number cs).filter fun c => p (c.key e)) = number (cs.filter fun c => p (c.key e)) :=
  number_congr (map_declaration_filter_congr e p (map_declaration_number cs))

end Column

/-! ### Runs of one kind -/

namespace Operation

variable {e : Engine} {cs ds : List Column}

theorem applyTo_add_of_mem {c : Column} (h : c.key e ∈ cs.map (·.key e)) :
    (Operation.add c).applyTo e cs = cs := by
  obtain ⟨d, hd, hkey⟩ := List.mem_map.mp h
  rw [applyTo, if_pos (List.any_eq_true.mpr ⟨d, hd, decide_eq_true hkey⟩)]

theorem applyTo_add_of_not_mem {c : Column} (h : c.key e ∉ cs.map (·.key e)) :
    (Operation.add c).applyTo e cs = cs ++ Column.numberFrom cs.length [c] := by
  rw [applyTo, if_neg]
  · rfl
  · intro hany
    obtain ⟨d, hd, hkey⟩ := List.any_eq_true.mp hany
    exact h (List.mem_map.mpr ⟨d, hd, of_decide_eq_true hkey⟩)

/-- An addition adds a key. -/
theorem mem_map_key_applyTo_add {c : Column} {k : String} :
    k ∈ ((Operation.add c).applyTo e cs).map (·.key e) ↔ k ∈ cs.map (·.key e) ∨ k = c.key e := by
  rw [map_key_applyTo_add]
  split
  · next hc => exact ⟨.inl, fun h => h.elim id fun hk => hk ▸ hc⟩
  · rw [List.mem_append, List.mem_singleton]

/-- A drop takes a key away. -/
theorem mem_map_key_applyTo_drop {c : Column} {k : String} :
    k ∈ ((Operation.drop c).applyTo e cs).map (·.key e) ↔ k ∈ cs.map (·.key e) ∧ k ≠ c.key e := by
  rw [map_key_applyTo_drop, List.mem_filter, decide_eq_true_iff]

/-- No operation makes a key occur twice. -/
theorem nodup_map_key_applyTo (op : Operation) (h : (cs.map (·.key e)).Nodup) :
    ((op.applyTo e cs).map (·.key e)).Nodup := by
  cases op with
  | add c =>
    rw [map_key_applyTo_add]
    split
    · exact h
    · next hc =>
      refine List.nodup_append.mpr ⟨h, List.pairwise_singleton _ _, ?_⟩
      rintro k hk _ hk' rfl
      exact hc (List.mem_singleton.mp hk' ▸ hk)
  | drop c =>
    rw [map_key_applyTo_drop]
    exact h.filter _

/-- Operations make no key occur twice. -/
theorem nodup_map_key_applyAll (ops : List Operation) (h : (cs.map (·.key e)).Nodup) :
    ((applyAll e cs ops).map (·.key e)).Nodup := by
  induction ops generalizing cs with
  | nil => exact h
  | cons op ops ih =>
    rw [applyAll_cons]
    exact ih (nodup_map_key_applyTo op h)

/-- An operation leaves a numbered list numbered. -/
theorem number_applyTo (op : Operation) (h : Column.number cs = cs) :
    Column.number (op.applyTo e cs) = op.applyTo e cs := by
  cases op with
  | add c =>
    by_cases hc : c.key e ∈ cs.map (·.key e)
    · rwa [applyTo_add_of_mem hc]
    · rw [applyTo_add_of_not_mem hc, Column.number_append_numberFrom h]
  | drop c => rw [applyTo, Column.number_number]

/-- Operations leave a numbered list numbered. -/
theorem number_applyAll (ops : List Operation) (h : Column.number cs = cs) :
    Column.number (applyAll e cs ops) = applyAll e cs ops := by
  induction ops generalizing cs with
  | nil => exact h
  | cons op ops ih =>
    rw [applyAll_cons]
    exact ih (number_applyTo op h)

/-- **Additions** of columns with new and pairwise different keys append them all. -/
theorem applyAll_map_add (hnew : ∀ d ∈ ds, d.key e ∉ cs.map (·.key e))
    (hnodup : (ds.map (·.key e)).Nodup) :
    applyAll e cs (ds.map .add) = cs ++ Column.numberFrom cs.length ds := by
  induction ds generalizing cs with
  | nil => simp
  | cons d ds ih =>
    obtain ⟨hd, hds⟩ := List.nodup_cons.mp hnodup
    have hfirst := applyTo_add_of_not_mem (hnew d List.mem_cons_self)
    have hrest : ∀ d' ∈ ds, d'.key e ∉ (cs ++ Column.numberFrom cs.length [d]).map (·.key e) := by
      intro d' hd'
      rw [List.map_append, List.mem_append, Column.map_key_numberFrom]
      rintro (hmem | hmem)
      · exact hnew d' (List.mem_cons_of_mem _ hd') hmem
      · have hkey : d'.key e = d.key e := List.mem_singleton.mp hmem
        exact hd (List.mem_map.mpr ⟨d', hd', hkey⟩)
    rw [List.map_cons, applyAll_cons, hfirst, ih hrest hds, List.append_assoc,
      List.length_append, Column.length_numberFrom, ← Column.numberFrom_append]
    rfl

/-- **Drops** keep the columns whose keys are not dropped, and number them. -/
theorem applyAll_map_drop (hne : ds ≠ []) :
    applyAll e cs (ds.map .drop)
      = Column.number (cs.filter fun c => c.key e ∉ ds.map (·.key e)) := by
  induction ds generalizing cs with
  | nil => exact absurd rfl hne
  | cons d ds ih =>
    rw [List.map_cons, applyAll_cons, applyTo]
    by_cases hds : ds = []
    · subst hds
      simp
    · -- the first drop has numbered the columns, and the later ones number them again
      rw [ih hds, Column.number_filter_number e (fun k => k ∉ ds.map (·.key e)), List.filter_filter]
      congr 2
      funext c
      rw [Bool.and_comm]
      simp

end Operation

end SchemaDrift
