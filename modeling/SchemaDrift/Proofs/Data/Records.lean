import SchemaDrift.Data.Decode

/-!
# Reading records that were written

A record that the library writes has each of its names once. Reading it is then a matter of single
fields: `Data.fields?_of_nodup` says that the record is taken as it stands, and the lemmas on
`Fields.find?` find what stands under a name. What is written for a part of a record is read back
when

* a natural number is below the bound of its reader (`Data.natBelow?_ofNat`);
* an absent text is written as null (`Data.nullable?_ofOptionText`), or left out;
* the items of a list are all read back (`Data.list?_map`);
* the values of a dictionary are all read back (`Data.dictionary?_map`); the order in which a
  dictionary is written is its own.

Of a record that was written by others, `Fields.defaulted_named_iff` says what a field with a
default is read as.
-/

namespace SchemaDrift

/-! ### Fields by name -/

namespace Data

variable {form : Form} {names : List String} {fields : List (String × Data)}

/-- Where no name occurs twice, no known name does. -/
theorem knownOnce_of_nodup (h : (fields.map (·.1)).Nodup) (names : List String) :
    knownOnce names fields = true := by
  refine List.all_eq_true.mpr fun name _ => decide_eq_true ?_
  have hcount : fields.countP (fun f => f.1 = name) = (fields.map (·.1)).count name := by
    rw [List.count, List.countP_map]
    refine List.countP_congr fun f _ => ?_
    simp
  rw [hcount]
  exact List.nodup_iff_count.mp h name

/-- A record without repeated names is taken as it stands. -/
theorem fields?_of_nodup (h : (fields.map (·.1)).Nodup) (form : Form) (names : List String) :
    (Data.record fields).fields? form names = some ⟨form, false, fields⟩ :=
  if_pos (knownOnce_of_nodup h names)

theorem namedFields?_of_nodup (h : (fields.map (·.1)).Nodup) (form : Form)
    (names : List String) :
    (Data.record fields).namedFields? form names = some ⟨form, false, fields⟩ :=
  if_pos (knownOnce_of_nodup h names)

end Data

namespace Fields

variable {form : Form} {positional : Bool} {name : String} {entries : List (String × Data)}

@[simp]
theorem find?_nil : (⟨form, positional, []⟩ : Fields).find? name = none := rfl

@[simp]
theorem find?_cons (e : String × Data) :
    (⟨form, positional, e :: entries⟩ : Fields).find? name
      = if name = e.1 then some e.2 else (⟨form, positional, entries⟩ : Fields).find? name :=
  Dictionary.lookup_cons_eq name e entries

/-- Where no name occurs twice, a field is found exactly when it is written. -/
theorem find?_eq_some_iff (h : (entries.map (·.1)).Nodup) {d : Data} :
    (⟨form, positional, entries⟩ : Fields).find? name = some d ↔ (name, d) ∈ entries :=
  Dictionary.lookup_eq_some_iff_mem h

end Fields

/-! ### Parts that are read back -/

namespace Data

variable {α : Type}

theorem natBelow?_ofNat {bound n : Nat} (h : n < bound) : natBelow? bound (ofNat n) = some n :=
  if_pos h

/-- A natural number of 64 bits is read back. -/
theorem count?_ofNat {n : Nat} (h : n < Nat.pow 2 64) : count? (ofNat n) = some n :=
  natBelow?_ofNat h

@[simp]
theorem text?_text (s : String) : text? (.text s) = some s := rfl

@[simp]
theorem nullable?_text (s : String) : nullable? text? (.text s) = some (some s) := rfl

/-- An optional text is read back; an absent one is written as null. -/
@[simp]
theorem nullable?_ofOptionText (o : Option String) :
    nullable? text? (ofOptionText o) = some o := by
  cases o <;> rfl

/-- What is written item by item is read back when each item is. -/
theorem mapM_map_eq {β : Type} {encode : α → β} {decode : β → Option α} {as : List α}
    (h : ∀ a ∈ as, decode (encode a) = some a) : (as.map encode).mapM decode = some as := by
  induction as with
  | nil => rfl
  | cons a as ih =>
    rw [List.map_cons, List.mapM_cons, h a List.mem_cons_self,
      ih fun b hb => h b (List.mem_cons_of_mem a hb)]
    rfl

/-- A list is read back when its items are. -/
theorem list?_map {encode : α → Data} {decode : Data → Option α} {as : List α}
    (h : ∀ a ∈ as, decode (encode a) = some a) :
    list? decode (.list (as.map encode)) = some as := mapM_map_eq h

/-- A list of texts is read back. -/
@[simp]
theorem list?_ofTexts (ss : List String) : list? text? (ofTexts ss) = some ss :=
  list?_map fun _ _ => rfl

theorem exists_mem_of_mapM_fields {decode : Data → Option α} {fields : List (String × Data)}
    {es : List (String × α)}
    (h : fields.mapM (fun f => (decode f.2).map fun a => (f.1, a)) = some es)
    {name : String} {a : α} (ha : (name, a) ∈ es) :
    ∃ d, (name, d) ∈ fields ∧ decode d = some a := by
  induction fields generalizing es with
  | nil =>
    cases h
    cases ha
  | cons f fields ih =>
    simp only [List.mapM_cons, Option.bind_eq_bind, Option.bind_eq_some_iff, Option.pure_def,
      Option.some.injEq, Option.map_eq_some_iff] at h
    obtain ⟨e, ⟨b, hb, rfl⟩, es, hes, rfl⟩ := h
    rcases List.mem_cons.mp ha with hhead | htail
    · cases hhead
      exact ⟨f.2, List.mem_cons_self, hb⟩
    · obtain ⟨d, hmem, hd⟩ := ih hes htail
      exact ⟨d, List.mem_cons_of_mem f hmem, hd⟩

/-- What is found in a dictionary was written under its name. -/
theorem exists_mem_of_dictionary? {decode : Data → Option α} {fields : List (String × Data)}
    {dict : Dictionary α} (h : dictionary? decode (.record fields) = some dict) {name : String}
    {a : α} (ha : dict.find? name = some a) : ∃ d, (name, d) ∈ fields ∧ decode d = some a := by
  obtain ⟨es, hes, rfl⟩ := Option.map_eq_some_iff.mp h
  exact exists_mem_of_mapM_fields hes (Dictionary.mem_of_find?_ofList ha)

/-- Named entries are read back when their values are; of a name that is written twice, the last
counts. -/
theorem dictionary?_map {encode : α → Data} {decode : Data → Option α} {es : List (String × α)}
    (h : ∀ e ∈ es, decode (encode e.2) = some e.2) :
    dictionary? decode (.record (es.map fun e => (e.1, encode e.2)))
      = some (Dictionary.ofList es) := by
  have hentry : ∀ e ∈ es, (decode (encode e.2)).map (fun a => (e.1, a)) = some e := by
    intro e he
    rw [h e he, Option.map_some]
  rw [dictionary?, mapM_map_eq hentry, Option.map_some]

end Data

/-! ### Objects

An object is a record whose parts are all readable: named values, with distinct names. -/

section Objects

variable {form : Form} {positional : Bool} {name : String} {fields : List (String × Value)}
  {α : Type} {encode : α → Value}

/-- Named values as data. -/
def Data.named (fields : List (String × Value)) : List (String × Data) :=
  fields.map fun e => (e.1, e.2.data)

theorem Data.map_fst_named (fields : List (String × Value)) :
    (named fields).map (·.1) = fields.map (·.1) := by
  rw [named, List.map_map]
  rfl

theorem Data.mem_named_iff {d : Data} :
    (name, d) ∈ named fields ↔ ∃ v, (name, v) ∈ fields ∧ v.data = d := by
  rw [named, List.mem_map]
  constructor
  · rintro ⟨⟨n, v⟩, hmem, heq⟩
    cases heq
    exact ⟨v, hmem, rfl⟩
  · rintro ⟨v, hmem, rfl⟩
    exact ⟨(name, v), hmem, rfl⟩

/-- An object **holds** `a` under a name when it has the name with what is written for `a`, or
lacks the name and `a` is the default. -/
def Data.Holds (fields : List (String × Value)) (name : String) (encode : α → Value)
    (default a : α) : Prop :=
  (name, encode a) ∈ fields ∨ name ∉ fields.map (·.1) ∧ a = default

/-- An object holds something under a name exactly when what it has under the name, if anything,
is written for something. -/
theorem Data.exists_holds_iff (h : (fields.map (·.1)).Nodup) (default : α) :
    (∃ a, Holds fields name encode default a) ↔ ∀ v, (name, v) ∈ fields → ∃ a, v = encode a := by
  constructor
  · rintro ⟨a, hmem | ⟨habsent, -⟩⟩ v hv
    · exact ⟨a, Dictionary.eq_of_mem_of_mem h hv hmem⟩
    · exact absurd (List.mem_map.mpr ⟨_, hv, rfl⟩) habsent
  · intro hencoded
    by_cases hname : name ∈ fields.map (·.1)
    · obtain ⟨⟨n, v⟩, hmem, rfl⟩ := List.mem_map.mp hname
      obtain ⟨a, rfl⟩ := hencoded v hmem
      exact ⟨a, .inl hmem⟩
    · exact ⟨default, .inr ⟨hname, rfl⟩⟩

/-- A field with a default is read as what the object holds under its name. -/
theorem Fields.defaulted_named_iff {decode : Data → Option α}
    (hdecode : ∀ v a, decode (Value.data v) = some a ↔ v = encode a)
    (h : (fields.map (·.1)).Nodup) {default a : α} :
    (⟨form, positional, Data.named fields⟩ : Fields).defaulted name default decode = some a
      ↔ Data.Holds fields name encode default a := by
  have hnamed : ((Data.named fields).map (·.1)).Nodup := (Data.map_fst_named fields).symm ▸ h
  rw [defaulted, Data.Holds]
  by_cases hname : name ∈ fields.map (·.1)
  · obtain ⟨⟨n, v⟩, hmem, rfl⟩ := List.mem_map.mp hname
    have hfind : (⟨form, positional, Data.named fields⟩ : Fields).find? n = some v.data :=
      (find?_eq_some_iff hnamed).mpr (Data.mem_named_iff.mpr ⟨v, hmem, rfl⟩)
    have hsame : (n, encode a) ∈ fields ↔ v = encode a :=
      ⟨Dictionary.eq_of_mem_of_mem h hmem, fun heq => heq ▸ hmem⟩
    rw [hfind, hsame, hdecode]
    simp [hname]
  · have hfind : (⟨form, positional, Data.named fields⟩ : Fields).find? name = none := by
      refine Option.eq_none_iff_forall_ne_some.mpr fun d hd => hname ?_
      obtain ⟨v, hmem, -⟩ := Data.mem_named_iff.mp ((find?_eq_some_iff hnamed).mp hd)
      exact List.mem_map.mpr ⟨_, hmem, rfl⟩
    have habsent : (name, encode a) ∉ fields := fun hmem => hname (List.mem_map.mpr ⟨_, hmem, rfl⟩)
    rw [hfind]
    simp [hname, habsent, eq_comm]

/-- The fields with other names are those of a smaller object. -/
theorem Fields.others_named (names : List String) :
    (⟨form, positional, Data.named fields⟩ : Fields).others names
      = Data.named (fields.filter fun e => !names.contains e.1) := by
  rw [others, Data.named, List.filter_map]
  rfl

theorem Data.dictionary?_named (fields : List (String × Value)) :
    dictionary? Value.of? (.record (named fields)) = some (Dictionary.ofList fields) :=
  dictionary?_map fun e _ => e.2.of?_data

theorem Data.bool?_data_iff (v : Value) (b : Bool) : bool? v.data = some b ↔ v = .bool b := by
  rw [← Value.data_inj]
  cases v.data <;> simp [bool?, Value.bool]

theorem Data.nullable?_data_iff (v : Value) (o : Option String) :
    nullable? text? v.data = some o ↔ v = .ofOptionText o := by
  rw [← Value.data_inj]
  cases v.data <;> cases o <;>
    simp [nullable?, text?, Value.ofOptionText, Value.text, Value.null]

end Objects

end SchemaDrift
