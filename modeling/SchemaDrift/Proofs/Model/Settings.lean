import Mathlib.Tactic.Choose
import SchemaDrift.Model.Basic
import SchemaDrift.Proofs.Data.Records

/-!
# Settings are read and written without loss

Nine names of the settings of a node have fields of their own, and every other name is kept with
its value. Both stand in one record, so nothing but the names tells them apart.

What reading does is said once, for an object: settings are read from it exactly when they
**agree** with it (`NodeSettings.ofData?_named_iff`), which means that it holds every setting with
a field, or lacks the name of one that has its default, and that the others are its entries with
other names. The rest follows from this equivalence.

* Some settings agree with an object exactly when `enabled` is a truth value in it and the other
  eight are texts or null, as far as they are there (`NodeSettings.exists_agrees_iff`).
* Settings are **unmixed** when none of the others has a name that has a field, as is the case for
  all settings that are read. These agree with what is written for them
  (`NodeSettings.IsUnmixed.agrees_written`), so they are read back.
-/

namespace SchemaDrift

namespace NodeSettings

/-! ### Reading an object -/

variable {form : Form} {fields : List (String × Value)} {s : NodeSettings}

/-- The names of the settings that are texts. -/
def textNames : List String :=
  ["materialized", "on_schema_change", "catalog_name", "catalog", "table_format",
    "external_volume", "base_location_root", "base_location_subpath"]

/-- The settings that are texts, under their names. -/
def texts (s : NodeSettings) : List (String × Option String) :=
  [("materialized", s.materialized), ("on_schema_change", s.onSchemaChange),
    ("catalog_name", s.catalogName), ("catalog", s.catalog), ("table_format", s.tableFormat),
    ("external_volume", s.externalVolume), ("base_location_root", s.locationRoot),
    ("base_location_subpath", s.locationSubpath)]

/-- What reading does: each setting with a field is read under its name, and the fields with
other names become the others. -/
theorem ofData?_eq_some_iff {d : Data} :
    ofData? form d = some s ↔ ∃ f : Fields, d.namedFields? form names = some f
      ∧ f.defaulted "enabled" true Data.bool? = some s.enabled
      ∧ (∀ e ∈ s.texts, f.optionalOrAbsent e.1 Data.text? = some e.2)
      ∧ Data.dictionary? Value.of? (.record (f.others names)) = some s.others := by
  simp only [ofData?, texts, List.forall_mem_cons, List.not_mem_nil, false_imp_iff, implies_true,
    and_true, Option.bind_eq_bind, Option.bind_eq_some_iff, Option.pure_def, Option.some.injEq]
  constructor
  · rintro ⟨f, hf, _, henabled, _, hmaterialized, _, honSchemaChange, _, hcatalogName, _, hcatalog,
      _, htableFormat, _, hexternalVolume, _, hlocationRoot, _, hlocationSubpath, _, hothers, rfl⟩
    exact ⟨f, hf, henabled, ⟨hmaterialized, honSchemaChange, hcatalogName, hcatalog, htableFormat,
      hexternalVolume, hlocationRoot, hlocationSubpath⟩, hothers⟩
  · rintro ⟨f, hf, henabled, ⟨hmaterialized, honSchemaChange, hcatalogName, hcatalog, htableFormat,
      hexternalVolume, hlocationRoot, hlocationSubpath⟩, hothers⟩
    exact ⟨f, hf, _, henabled, _, hmaterialized, _, honSchemaChange, _, hcatalogName, _, hcatalog,
      _, htableFormat, _, hexternalVolume, _, hlocationRoot, _, hlocationSubpath, _, hothers, rfl⟩

/-- Settings **agree** with an object when it holds each setting with a field under its name, and
the others are its entries with other names. -/
structure Agrees (fields : List (String × Value)) (s : NodeSettings) : Prop where
  enabled : Data.Holds fields "enabled" Value.bool true s.enabled
  texts : ∀ e ∈ s.texts, Data.Holds fields e.1 Value.ofOptionText none e.2
  others : ∀ name v, s.others.find? name = some v ↔ (name, v) ∈ fields ∧ name ∉ names

theorem ofList_filter_eq_iff (h : (fields.map (·.1)).Nodup) {d : Dictionary Value} :
    Dictionary.ofList (fields.filter fun e => !names.contains e.1) = d
      ↔ ∀ name v, d.find? name = some v ↔ (name, v) ∈ fields ∧ name ∉ names := by
  have hkept : ((fields.filter fun e => !names.contains e.1).map (·.1)).Nodup :=
    h.sublist (List.filter_sublist.map _)
  have hfind : ∀ name v,
      (Dictionary.ofList (fields.filter fun e => !names.contains e.1)).find? name = some v
        ↔ (name, v) ∈ fields ∧ name ∉ names := by
    intro name v
    rw [Dictionary.find?_ofList_eq_some_iff hkept, List.mem_filter]
    simp
  constructor
  · rintro rfl
    exact hfind
  · intro hd
    exact Dictionary.ext_find? fun name v => (hfind name v).trans (hd name v).symm

/-- Settings are read from an object exactly when they agree with it. -/
theorem ofData?_named_iff (h : (fields.map (·.1)).Nodup) :
    ofData? form (.record (Data.named fields)) = some s ↔ s.Agrees fields := by
  have hnamed : ((Data.named fields).map (·.1)).Nodup := (Data.map_fst_named fields).symm ▸ h
  rw [ofData?_eq_some_iff, Data.namedFields?_of_nodup hnamed]
  simp only [Option.some.injEq, exists_eq_left', Fields.optionalOrAbsent,
    Fields.defaulted_named_iff Data.bool?_data_iff h,
    Fields.defaulted_named_iff Data.nullable?_data_iff h,
    Fields.others_named, Data.dictionary?_named, ofList_filter_eq_iff h]
  exact ⟨fun ⟨henabled, htexts, hothers⟩ => ⟨henabled, htexts, hothers⟩,
    fun ⟨henabled, htexts, hothers⟩ => ⟨henabled, htexts, hothers⟩⟩

/-- An object is **readable** when, as far as they are there, `enabled` is a truth value and each
setting that is a text is a text or null. -/
structure IsReadable (fields : List (String × Value)) : Prop where
  enabled : ∀ v, ("enabled", v) ∈ fields → ∃ b, v = .bool b
  texts : ∀ name ∈ textNames, ∀ v, (name, v) ∈ fields → v = .null ∨ ∃ t, v = .text t

/-- Some settings agree with an object exactly when it is readable. -/
theorem exists_agrees_iff (h : (fields.map (·.1)).Nodup) :
    (∃ s : NodeSettings, s.Agrees fields) ↔ IsReadable fields := by
  have htext : ∀ name, (∃ o, Data.Holds fields name Value.ofOptionText none o)
      ↔ ∀ v, (name, v) ∈ fields → v = .null ∨ ∃ t, v = .text t := fun name =>
    (Data.exists_holds_iff h none).trans
      (forall₂_congr fun v _ => Option.exists (p := fun o => v = .ofOptionText o))
  constructor
  · rintro ⟨s, hs⟩
    constructor
    · exact (Data.exists_holds_iff h true).mp ⟨s.enabled, hs.enabled⟩
    · intro name hname
      obtain ⟨⟨n, o⟩, ho, rfl⟩ := List.mem_map.mp (show name ∈ s.texts.map (·.1) from hname)
      exact (htext n).mp ⟨o, hs.texts _ ho⟩
  · intro hreadable
    obtain ⟨enabled, henabled⟩ := (Data.exists_holds_iff h true).mpr hreadable.enabled
    have htexts : ∀ name ∈ textNames, ∃ o, Data.Holds fields name Value.ofOptionText none o :=
      fun name hname => (htext name).mpr (hreadable.texts name hname)
    choose! read hread using htexts
    let kept := Dictionary.ofList (fields.filter fun e => !names.contains e.1)
    refine ⟨⟨enabled, read "materialized", read "on_schema_change", read "catalog_name",
      read "catalog", read "table_format", read "external_volume", read "base_location_root",
      read "base_location_subpath", kept⟩, henabled, ?_, (ofList_filter_eq_iff h).mp rfl⟩
    -- its texts are what was chosen for their names
    exact List.forall_mem_map (l := textNames) (f := fun name => (name, read name)).mpr hread

/-! ### Writing and reading again -/

/-- Settings are **unmixed** when no other setting has a name that has a field. -/
def IsUnmixed (s : NodeSettings) : Prop := ∀ name ∈ names, s.others.find? name = none

/-- All settings that are read are unmixed, whatever they are read from. -/
theorem isUnmixed_of_ofData? {d : Data} (h : ofData? form d = some s) : s.IsUnmixed := by
  obtain ⟨f, -, -, -, hothers⟩ := ofData?_eq_some_iff.mp h
  refine fun name hname => Option.eq_none_iff_forall_ne_some.mpr fun v hv => ?_
  obtain ⟨d, hmem, -⟩ := Data.exists_mem_of_dictionary? hothers hv
  simp [Fields.others, hname] at hmem

/-- What is written for settings, as named values. -/
def written (s : NodeSettings) : List (String × Value) :=
  ("enabled", .bool s.enabled) :: s.texts.map (fun e => (e.1, .ofOptionText e.2))
    ++ s.others.entries

theorem toData_eq (s : NodeSettings) : s.toData = .record (Data.named s.written) := by
  have htext : ∀ o, (Value.ofOptionText o).data = .ofOptionText o := by
    rintro (_ | t) <;> rfl
  simp [toData, written, texts, Data.named, htext, Value.bool]

theorem map_fst_written (s : NodeSettings) :
    s.written.map (·.1) = names ++ s.others.keys := by
  rw [written, List.map_append]
  rfl

theorem IsUnmixed.nodup_written (h : s.IsUnmixed) : (s.written.map (·.1)).Nodup := by
  rw [map_fst_written]
  refine List.nodup_append.mpr ⟨by decide, s.others.nodup_keys, ?_⟩
  rintro name hname _ hkey rfl
  obtain ⟨v, hv⟩ := Dictionary.mem_keys_iff.mp hkey
  rw [h name hname] at hv
  cases hv

/-- Unmixed settings agree with what is written for them. -/
theorem IsUnmixed.agrees_written (h : s.IsUnmixed) : s.Agrees s.written := by
  refine ⟨.inl List.mem_cons_self, fun e he => .inl ?_, fun name v => ?_⟩
  · exact List.mem_append_left _ (List.mem_cons_of_mem _ (List.mem_map.mpr ⟨e, he, rfl⟩))
  · constructor
    · intro hv
      refine ⟨List.mem_append_right _ (Dictionary.find?_eq_some_iff.mp hv), fun hname => ?_⟩
      rw [h name hname] at hv
      cases hv
    · rintro ⟨hmem, hname⟩
      refine Dictionary.find?_eq_some_iff.mpr ((List.mem_append.mp hmem).resolve_left ?_)
      -- what stands before the others has the names of the fields
      exact fun hfield => hname (List.mem_map_of_mem (f := (·.1)) hfield)

/-- Unmixed settings are read back. -/
theorem IsUnmixed.ofData?_toData (h : s.IsUnmixed) (form : Form) :
    ofData? form s.toData = some s := by
  rw [toData_eq, ofData?_named_iff h.nodup_written]
  exact h.agrees_written

end NodeSettings

/-- A model with unmixed settings is read back. -/
theorem Model.ofData?_toData {m : Model} (h : m.settings.IsUnmixed) (form : Form) :
    ofData? form m.toData = some m := by
  rw [ofData?, toData, Data.fields?_of_nodup (by simp)]
  simp [Fields.required, Fields.optional, h.ofData?_toData]

/-! ### Main result -/

/-- **Settings are read and written without loss.** An object can be read exactly when it is
readable, and what is read agrees with it: the others are its entries with other names, unchanged.
Settings that are read are unmixed, and unmixed settings are read back from what is written for
them, alone or as a part of a model. -/
theorem settings_read_back (form : Form) :
    (∀ fields : List (String × Value), (fields.map (·.1)).Nodup →
        ((∃ s, NodeSettings.ofData? form (.record (Data.named fields)) = some s)
          ↔ NodeSettings.IsReadable fields)
        ∧ ∀ s, NodeSettings.ofData? form (.record (Data.named fields)) = some s
          ↔ s.Agrees fields)
      ∧ (∀ d s, NodeSettings.ofData? form d = some s → s.IsUnmixed)
      ∧ (∀ s : NodeSettings, s.IsUnmixed → NodeSettings.ofData? form s.toData = some s)
      ∧ ∀ m : Model, m.settings.IsUnmixed → Model.ofData? form m.toData = some m := by
  refine ⟨fun fields h => ⟨?_, fun s => NodeSettings.ofData?_named_iff h⟩,
    fun _ _ => NodeSettings.isUnmixed_of_ofData?, fun _ h => h.ofData?_toData form,
    fun _ h => Model.ofData?_toData h form⟩
  rw [← NodeSettings.exists_agrees_iff h]
  exact exists_congr fun s => NodeSettings.ofData?_named_iff h

/-- Two settings with a field, one of them null, stand among two others. -/
theorem settings_read_back_hooks :
    let hooks : Value := ⟨.list [.record [("sql", .text "vacuum")], .null], rfl⟩
    let fields : List (String × Value) :=
      [("tags", .text "daily"), ("catalog", .null), ("enabled", .bool false), ("post-hook", hooks)]
    let settings : NodeSettings :=
      { enabled := false, others := .ofList [("tags", .text "daily"), ("post-hook", hooks)] }
    let model : Model := { Model.ofName (some "shop") "orders" with settings }
    (fields.map (·.1)).Nodup
      ∧ NodeSettings.ofData? .json (.record (Data.named fields)) = some settings
      ∧ settings.IsUnmixed
      ∧ NodeSettings.ofData? .json settings.toData = some settings
      ∧ Model.ofData? .json model.toData = some model := by
  intro hooks fields settings model
  obtain ⟨hobjects, hunmixed, hsettings, hmodels⟩ := settings_read_back .json
  have hnodup : (fields.map (·.1)).Nodup := by decide
  have hread : NodeSettings.ofData? .json (.record (Data.named fields)) = some settings := by
    refine ((hobjects fields hnodup).2 settings).mpr ⟨?_, ?_, ?_⟩
    · exact .inl (by simp [fields, settings])
    · simp [NodeSettings.texts, settings, fields, Data.Holds, Value.ofOptionText]
    · exact (NodeSettings.ofList_filter_eq_iff hnodup).mp rfl
  have hkept := hunmixed _ _ hread
  exact ⟨hnodup, hread, hkept, hsettings settings hkept, hmodels model hkept⟩

end SchemaDrift
