import SchemaDrift.Config.File
import SchemaDrift.Proofs.Data.Rearrangement
import SchemaDrift.Proofs.Report.ReadBack

/-!
# Saved settings are loaded back

Project settings are saved as a document without nulls. A part with nothing in it is told from an
absent one by what stands there: no quoting from the quoting of no part, no overrides from an empty
table of overrides, no catalog integrations from an empty list. `Config.readBack` says that reading
makes none of these mistakes, whatever the order in which the document has its fields.

What cannot be read back is a warehouse with a setting called `type`, since the type of the
warehouse stands under that name beside the settings. Settings are **unmixed** without one. All
settings that are read are unmixed (`Config.isUnmixed_of_ofData?`), so what was loaded once can be
saved and loaded again.
-/

namespace SchemaDrift

open Data (ReadBack)

/-! ### Parts of settings -/

theorem Dialect.readBack (x : Dialect) (form : Form) :
    ReadBack (ofData? form) (.text x.text) x := by
  refine .text ?_
  cases x <;> rfl

theorem QuotePolicy.readBack (p : QuotePolicy) (form : Form) :
    ReadBack (ofData? form) p.toData p := by
  intro e he
  obtain ⟨f, htell, hf, -⟩ := Data.exists_fields_tell (by simp) he form
    ["database", "schema", "identifier"]
  have hdatabase : f.required "database" Data.bool? = some p.database :=
    htell.required (by simp) rfl (.bool _)
  have hschema : f.required "schema" Data.bool? = some p.schema :=
    htell.required (by simp) rfl (.bool _)
  have hidentifier : f.required "identifier" Data.bool? = some p.identifier :=
    htell.required (by simp) rfl (.bool _)
  rw [ofData?, hf]
  simp [hdatabase, hschema, hidentifier]

theorem SeverityOverrides.readBack (o : SeverityOverrides) (form : Form) :
    ReadBack (ofData? form) o.toData o := by
  intro e he
  obtain ⟨f, htell, hf, -⟩ := Data.exists_fields_tell (by simp) he form ["overrides"]
  have hentries : f.required "overrides" (Data.dictionary? (Severity.ofData? form))
      = some o.entries := by
    refine htell.required List.mem_cons_self rfl (.dictionary (fun _ => rfl) fun s => .text ?_)
    exact s.ofData?_text form
  rw [ofData?, hf]
  simp [hentries]

theorem CatalogConfig.readBack (c : CatalogConfig) (form : Form) :
    ReadBack (ofData? form) c.toData c := by
  intro e he
  obtain ⟨f, htell, hf, -⟩ := Data.exists_fields_tell (by simp) he form
    ["name", "catalog_type", "table_format", "external_volume"]
  have hname : f.required "name" Data.text? = some c.name :=
    htell.required (by simp) rfl (.text rfl)
  have hcatalogType : f.required "catalog_type" Data.text? = some c.catalogType :=
    htell.required (by simp) rfl (.text rfl)
  have htableFormat : f.optionalOrAbsent "table_format" Data.text? = some c.tableFormat :=
    htell.optionalOrAbsent (by simp [Data.ofOptionText]) (fun _ _ => rfl) fun _ _ => .text rfl
  have hexternalVolume : f.optionalOrAbsent "external_volume" Data.text? = some c.externalVolume :=
    htell.optionalOrAbsent (by simp [Data.ofOptionText]) (fun _ _ => rfl) fun _ _ => .text rfl
  rw [ofData?, hf]
  simp [hname, hcatalogType, htableFormat, hexternalVolume]

/-! ### The warehouse -/

/-- The settings of a warehouse are **unmixed** when none of them is called `type`. -/
def WarehouseConfig.IsUnmixed (w : WarehouseConfig) : Prop := w.settings.find? "type" = none

theorem WarehouseConfig.isUnmixed_of_ofData? {form : Form} {d : Data} {w : WarehouseConfig}
    (h : ofData? form d = some w) : w.IsUnmixed := by
  simp only [ofData?, Option.bind_eq_bind, Option.bind_eq_some_iff, Option.pure_def,
    Option.some.injEq] at h
  obtain ⟨f, -, type, -, settings, hsettings, rfl⟩ := h
  refine Option.eq_none_iff_forall_ne_some.mpr fun s hs => ?_
  obtain ⟨d, hmem, -⟩ := Data.exists_mem_of_dictionary? hsettings hs
  simp [Fields.others] at hmem

/-- The settings of a warehouse as fields. -/
def WarehouseConfig.settingFields (w : WarehouseConfig) : List (String × Data) :=
  w.settings.entries.map fun e => (e.1, .text e.2)

theorem WarehouseConfig.map_fst_settingFields (w : WarehouseConfig) :
    w.settingFields.map (·.1) = w.settings.keys := by
  rw [settingFields, List.map_map]
  rfl

theorem WarehouseConfig.IsUnmixed.not_mem_keys {w : WarehouseConfig} (hw : w.IsUnmixed) :
    "type" ∉ w.settings.keys := by
  intro hkey
  obtain ⟨s, hs⟩ := Dictionary.mem_keys_iff.mp hkey
  rw [hw] at hs
  cases hs

/-- The settings are what stands beside the type. -/
theorem WarehouseConfig.IsUnmixed.filter_fields {w : WarehouseConfig} (hw : w.IsUnmixed) :
    (("type", Data.text w.type) :: w.settingFields).filter (fun f => !(["type"].contains f.1))
      = w.settingFields := by
  rw [List.filter_cons_of_neg (by simp), List.filter_eq_self.mpr]
  intro f hf
  have hother : f.1 ≠ "type" := by
    intro heq
    have hkey : f.1 ∈ w.settings.keys := w.map_fst_settingFields ▸ List.mem_map_of_mem hf
    exact hw.not_mem_keys (heq ▸ hkey)
  simp [hother]

theorem WarehouseConfig.readBack {w : WarehouseConfig} (hw : w.IsUnmixed) (form : Form) :
    ReadBack (ofData? form) w.toData w := by
  intro e he
  have hnodup : ((("type", Data.text w.type) :: w.settingFields).map (·.1)).Nodup := by
    rw [List.map_cons, map_fst_settingFields]
    exact List.nodup_cons.mpr ⟨hw.not_mem_keys, w.settings.nodup_keys⟩
  obtain ⟨f, htell, -, hf⟩ := Data.exists_fields_tell hnodup he form ["type"]
  have htype : f.required "type" Data.text? = some w.type :=
    htell.required List.mem_cons_self rfl (.text rfl)
  have hothers := htell.others ["type"]
  rw [hw.filter_fields] at hothers
  have hback : ReadBack (Data.dictionary? Data.text?) (.record w.settingFields) w.settings :=
    .dictionary (fun _ => rfl) fun _ => .text rfl
  have hsettings := hback _ hothers
  rw [ofData?, hf]
  simp [htype, hsettings]

/-- An optional part that is there was read from something. -/
theorem Fields.exists_of_optionalOrAbsent {α : Type} {f : Fields} {name : String}
    {decode : Data → Option α} {a : α} (h : f.optionalOrAbsent name decode = some (some a)) :
    ∃ d, decode d = some a := by
  rw [optionalOrAbsent, defaulted] at h
  split at h
  · next d _ =>
    unfold Data.nullable? at h
    split at h
    · cases h
    · obtain ⟨b, hb, heq⟩ := Option.map_eq_some_iff.mp h
      exact ⟨d, heq ▸ hb⟩
  · cases h

/-! ### Main result -/

namespace Config

/-- Project settings are **unmixed** when those of the warehouse are. -/
def IsUnmixed (c : Config) : Prop := ∀ w ∈ c.warehouse, w.IsUnmixed

/-- All settings that are read are unmixed, whatever they are read from. -/
theorem isUnmixed_of_ofData? {form : Form} {d : Data} {c : Config} (h : ofData? form d = some c) :
    c.IsUnmixed := by
  simp only [ofData?, Option.bind_eq_bind, Option.bind_eq_some_iff, Option.pure_def,
    Option.some.injEq] at h
  obtain ⟨f, -, dialect, -, quoting, -, severity, -, warehouse, hwarehouse, catalogs, -, rfl⟩ := h
  rintro w rfl
  obtain ⟨d, hd⟩ := Fields.exists_of_optionalOrAbsent hwarehouse
  exact WarehouseConfig.isUnmixed_of_ofData? hd

/-- Unmixed settings are read back. -/
theorem readBack {c : Config} (hc : c.IsUnmixed) (form : Form) :
    ReadBack (ofData? form) c.toData c := by
  intro e he
  obtain ⟨f, htell, hf, -⟩ := Data.exists_fields_tell (by simp) he form
    ["dialect", "quoting", "severity", "warehouse", "catalogs"]
  have hdialect : f.defaulted "dialect" default (Dialect.ofData? form) = some c.dialect :=
    htell.defaulted (by simp) rfl (c.dialect.readBack form) default
  have hquoting : f.optionalOrAbsent "quoting" (QuotePolicy.ofData? form) = some c.quoting :=
    htell.optionalOrAbsent (by simp) (fun _ _ => rfl) fun p _ => p.readBack form
  have hseverity : f.defaulted "severity" {} (SeverityOverrides.ofData? form) = some c.severity :=
    htell.defaulted (by simp) rfl (c.severity.readBack form) {}
  have hwarehouse : f.optionalOrAbsent "warehouse" (WarehouseConfig.ofData? form)
      = some c.warehouse :=
    htell.optionalOrAbsent (by simp) (fun _ _ => rfl) fun w hw =>
      WarehouseConfig.readBack (hc w hw) form
  have hcatalogs : f.defaulted "catalogs" [] (Data.list? (CatalogConfig.ofData? form))
      = some c.catalogs :=
    htell.defaulted (by simp) rfl (.list fun c _ => c.readBack form) []
  rw [ofData?, hf]
  simp [hdialect, hquoting, hseverity, hwarehouse, hcatalogs]

/-- Settings are loaded from a text that says a document from which they are read. -/
theorem load_eq_ok_iff {s : String} {c : Config} :
    load (.ok s) = .ok c ↔ ∃ d, Toml.parse s = some d ∧ ofData? .toml d = some c := by
  rw [← Option.bind_eq_some_iff, load]
  cases (Toml.parse s).bind (ofData? .toml) <;> simp

/-- **Saved settings are loaded back.** Unmixed settings are what is read from the document that
is saved for them, however its fields are rearranged. So they are loaded from the text of that
document as long as the text says the document, rearranged. -/
theorem load_saved {c : Config} (hc : c.IsUnmixed) {d : Data}
    (hd : (Data.record c.savedFields).Rearranged d) :
    ofData? .toml d = some c ∧ (Toml.parse c.saved = some d → load (.ok c.saved) = .ok c) := by
  have hread : ofData? .toml d = some c := readBack hc .toml d hd
  exact ⟨hread, fun hparse => load_eq_ok_iff.mpr ⟨d, hparse, hread⟩⟩

/-- A warehouse with one setting and a catalog integration without a volume, of which the text
says the document as it stands. -/
theorem load_saved_lake :
    let c : Config :=
      { dialect := .snowflake
        warehouse := some ⟨"snowflake", .ofList [("role", "etl")]⟩
        catalogs := [⟨"lake", "BUILT_IN", some "ICEBERG", none⟩] }
    c.IsUnmixed ∧ ofData? .toml (.record c.savedFields) = some c
      ∧ load (.ok c.saved) = .ok c := by
  intro c
  have hc : c.IsUnmixed := by
    intro w hw
    obtain rfl := Option.some.inj hw
    have hsettings : (Dictionary.ofList [("role", "etl")]).find? "type" = none := by decide
    exact hsettings
  have hparse : Toml.parse c.saved = some (.record c.savedFields) := by
    decide +kernel
  obtain ⟨hread, hload⟩ := load_saved hc (.refl _)
  exact ⟨hc, hread, hload hparse⟩

-- In the text of the settings of a project that sets nothing, the empty list of catalog
-- integrations stands before the table of severities, which is saved before it.
example : Toml.parse (saved {}) = some (.record [("dialect", .text "ansi"), ("catalogs", .list []),
    ("severity", .record [("overrides", .record [])])]) := by decide +kernel

/-- What was loaded once can be saved and loaded again. -/
theorem load_saved_of_load {s : String} {c : Config} (h : load (.ok s) = .ok c) {d : Data}
    (hd : (Data.record c.savedFields).Rearranged d) (hparse : Toml.parse c.saved = some d) :
    load (.ok c.saved) = .ok c := by
  obtain ⟨e, -, he⟩ := load_eq_ok_iff.mp h
  have hread : ofData? .toml d = some c := readBack (isUnmixed_of_ofData? he) .toml d hd
  exact load_eq_ok_iff.mpr ⟨d, hparse, hread⟩

end Config

end SchemaDrift
