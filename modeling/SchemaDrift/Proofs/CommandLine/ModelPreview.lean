import Mathlib.Data.List.Forall2
import SchemaDrift.CommandLine.Run
import SchemaDrift.Proofs.Catalog.Placements

/-!
# What `models` says of the models that a session loads

For each incremental model of a manifest the command `models` prints a line, and a session finds
the relation that it would load. A line **previews** its model when it reports an error exactly
when the policy or the relation of the model cannot be had, and otherwise names the table of that
relation. `models_lists_targets` tells of every line whether it does.

* A model in a catalog is placed by the same registry for both, so its line previews it
  (`previews_target_of_isSome`).
* The line of a model in no catalog is made of the names of the model as they stand, where a
  session creates a relation: which refuses a blank identifier, and takes an empty name for none.
  So the line previews such a model only if it is **well named**
  (`previews_target_iff_isWellNamed`). It may miss an error, but it makes none up
  (`reportsError_target_iff`).
-/

namespace SchemaDrift

/-! ### Dotted names -/

/-- Each part that is there adds its characters, and a dot if others follow. -/
theorem length_dottedName (database schema : Option String) (identifier : String) :
    (dottedName database schema identifier).length
      = database.elim 0 (·.length + 1) + schema.elim 0 (·.length + 1) + identifier.length := by
  have hdot : ".".length = 1 := rfl
  cases database <;> cases schema <;>
    simp [dottedName, String.intercalate_cons_cons, String.length_append, hdot, Nat.add_assoc]

/-- Leaving out empty parts changes a dotted name exactly when there are some. -/
theorem dottedName_filter_eq_iff {database schema : Option String} {identifier : String} :
    dottedName (database.filter fun s => !s.isEmpty) (schema.filter fun s => !s.isEmpty) identifier
        = dottedName database schema identifier
      ↔ database ≠ some "" ∧ schema ≠ some "" := by
  -- an empty part still has its dot, so without it the name is shorter
  have hlength : ∀ o : Option String, o.elim 0 (·.length + 1)
      = (o.filter fun s => !s.isEmpty).elim 0 (·.length + 1) + if o = some "" then 1 else 0 := by
    rintro (_ | s)
    · rfl
    · by_cases hs : s = ""
      · subst hs
        rfl
      · simp [Option.filter_some, hs]
  constructor
  · intro h
    have hsame := congrArg String.length h
    rw [length_dottedName, length_dottedName, hlength database, hlength schema] at hsame
    constructor
    · intro hempty
      rw [if_pos hempty] at hsame
      omega
    · intro hempty
      rw [if_pos hempty] at hsame
      omega
  · rintro ⟨hdatabase, hschema⟩
    rw [Relation.filter_nonempty_of_ne hdatabase, Relation.filter_nonempty_of_ne hschema]

/-- A model is **well named** when no part of the name of its table is empty, and its identifier
not blank either. -/
def Model.IsWellNamed (m : Model) : Prop :=
  m.database ≠ some "" ∧ m.schema ≠ some "" ∧ Text.isBlankText m.identifier = false

namespace CommandLine

/-! ### Targets -/

namespace ModelTarget

variable {r : Registry} {m : Model} {policy : Policy}

theorem of_policy_error {e : ConfigurationError} (hpolicy : m.policy = .error e) :
    ModelTarget.of r m = .error (.configuration e) := by
  rw [ModelTarget.of, hpolicy]
  rfl

theorem of_catalogName {name : String} (hpolicy : m.policy = .ok policy)
    (h : m.catalogName = some name) :
    ModelTarget.of r m = (r.placeIn name m).map fun p =>
      ⟨policy, p.relation.qualifiedName, some p.catalogName⟩ := by
  rw [ModelTarget.of, hpolicy, Registry.place_of_catalogName h]
  cases r.placeIn name m <;> rfl

theorem of_catalogName_eq_none (hpolicy : m.policy = .ok policy) (h : m.catalogName = none) :
    ModelTarget.of r m = .ok ⟨policy, m.qualifiedName, none⟩ := by
  rw [ModelTarget.of, hpolicy, Registry.place_of_catalogName_eq_none h]
  rfl

end ModelTarget

/-! ### Lines -/

/-- A line **reports an error** of a model. -/
def ReportsError (m : Model) (line : String) : Prop :=
  ∃ reason, line = "  " ++ padded 40 m.uniqueId ++ " ERROR " ++ reason

/-- A line **names a table** for a model: after the policy and the format of the model, and
before the folded name of the catalog that the model is in, if it is in one. -/
def NamesTable (s : Session) (m : Model) (policy : Policy) (table line : String) : Prop :=
  line = "  " ++ padded 40 m.uniqueId ++ " " ++ padded 20 policy.text ++ " "
    ++ padded 8 m.runFormat ++ " " ++ table
    ++ m.catalogName.elim "" fun name => " (" ++ s.registry.key name ++ ")"

/-- A line **previews** a model in a session. -/
structure Previews (s : Session) (m : Model) (line : String) : Prop where
  /-- It reports an error exactly when the policy or the relation of the model cannot be had. -/
  reportsError_iff :
    ReportsError m line ↔ (∃ e, m.policy = .error e) ∨ ∃ e, s.relationOf m = .error e
  /-- When both can be had, it names the table of the relation. -/
  namesTable : ∀ policy relation, m.policy = .ok policy → s.relationOf m = .ok relation →
    NamesTable s m policy relation.qualifiedName line

/-- What a line says of a model, and when it **previews** it. -/
structure Describes (s : Session) (m : Model) (line : String) : Prop where
  /-- No error is reported that is not there, and none is missed but that of a blank
  identifier in no catalog. -/
  reportsError_iff : ReportsError m line
    ↔ (∃ e, m.policy = .error e) ∨ m.catalogName.isSome ∧ ∃ e, s.relationOf m = .error e
  previews_iff : Previews s m line
    ↔ (∃ e, m.policy = .error e) ∨ m.catalogName.isSome ∨ m.IsWellNamed

section Lines

variable {s : Session} {m : Model}

theorem reportsError_modelLine_iff {result : Except CatalogError ModelTarget} :
    ReportsError m (modelLine m result) ↔ ∃ e, result = .error e := by
  cases result with
  | error e => exact iff_of_true ⟨_, rfl⟩ ⟨e, rfl⟩
  | ok t =>
    refine iff_of_false ?_ (by rintro ⟨e, he⟩; cases he)
    rintro ⟨reason, hline⟩
    -- where an error would be, there is the name of a policy, which is in small letters
    simp only [modelLine, String.append_assoc, String.append_right_inj] at hline
    have hletters := congrArg (fun line => (line.toList.take 2)) hline
    cases hpolicy : t.policy <;> simp [padded, hpolicy, Policy.text] at hletters

/-- The line of a target names its table and no other. -/
theorem namesTable_modelLine_iff {t : ModelTarget} {table : String}
    (hcatalog : t.catalog = m.catalogName.map s.registry.key) :
    NamesTable s m t.policy table (modelLine m (.ok t)) ↔ t.table = table := by
  have hdisplay : t.display
      = t.table ++ m.catalogName.elim "" fun name => " (" ++ s.registry.key name ++ ")" := by
    rw [ModelTarget.display, hcatalog]
    cases m.catalogName <;> simp [String.append_assoc]
  rw [NamesTable, modelLine, hdisplay]
  simp only [String.append_assoc, String.append_right_inj, String.append_left_inj]

/-- The errors of policies are reported, and those of models in a catalog. -/
theorem reportsError_target_iff :
    ReportsError m (modelLine m (ModelTarget.of s.registry m))
      ↔ (∃ e, m.policy = .error e) ∨ m.catalogName.isSome ∧ ∃ e, s.relationOf m = .error e := by
  rw [reportsError_modelLine_iff]
  cases hpolicy : m.policy with
  | error e => exact iff_of_true ⟨_, ModelTarget.of_policy_error hpolicy⟩ (.inl ⟨e, rfl⟩)
  | ok policy =>
    cases hcatalog : m.catalogName with
    | none => simp [ModelTarget.of_catalogName_eq_none hpolicy hcatalog]
    | some name =>
      rw [ModelTarget.of_catalogName hpolicy hcatalog, Session.relationOf_of_catalogName hcatalog]
      cases s.registry.placeIn name m <;> simp [Except.map]

/-- Where the policy and the relation can be had, the line names the table of the relation
exactly when the model is in a catalog or none of its names is empty. -/
theorem namesTable_target_iff {c : Config} {policy : Policy} {relation : Relation}
    (hstart : Session.start c = .ok s) (hpolicy : m.policy = .ok policy)
    (hrelation : s.relationOf m = .ok relation) :
    NamesTable s m policy relation.qualifiedName (modelLine m (ModelTarget.of s.registry m))
      ↔ m.catalogName.isSome ∨ m.database ≠ some "" ∧ m.schema ≠ some "" := by
  obtain ⟨-, rfl⟩ := Session.start_eq_ok_iff.mp hstart
  cases hcatalog : m.catalogName with
  | none =>
    rw [ModelTarget.of_catalogName_eq_none hpolicy hcatalog,
      namesTable_modelLine_iff (t := ⟨policy, m.qualifiedName, none⟩) (by rw [hcatalog]; rfl),
      Session.qualifiedName_of_relationOf hcatalog hrelation, eq_comm, Model.qualifiedName,
      dottedName_filter_eq_iff]
    simp
  | some name =>
    rw [Session.relationOf_of_catalogName hcatalog] at hrelation
    cases hplace : (Session.ofConfig c).registry.placeIn name m with
    | error e =>
      rw [hplace] at hrelation
      cases hrelation
    | ok p =>
      rw [hplace] at hrelation
      obtain rfl := Except.ok.inj hrelation
      have hname : p.catalogName = (Session.ofConfig c).registry.key name :=
        Registry.catalogName_of_placeIn hplace
      rw [ModelTarget.of_catalogName hpolicy hcatalog, hplace]
      refine iff_of_true ?_ (.inl rfl)
      exact (namesTable_modelLine_iff (t := ⟨policy, _, _⟩) (by rw [hcatalog, hname]; rfl)).mpr rfl

theorem previews_target_of_policy_error {e : ConfigurationError} (hpolicy : m.policy = .error e) :
    Previews s m (modelLine m (ModelTarget.of s.registry m)) := by
  refine ⟨?_, fun policy relation hok _ => ?_⟩
  · rw [reportsError_target_iff, hpolicy]
    exact iff_of_true (.inl ⟨e, rfl⟩) (.inl ⟨e, rfl⟩)
  · rw [hpolicy] at hok
    cases hok

theorem previews_target_of_isSome {c : Config} (hstart : Session.start c = .ok s)
    (hcatalog : m.catalogName.isSome) :
    Previews s m (modelLine m (ModelTarget.of s.registry m)) := by
  refine ⟨?_, fun policy relation hpolicy hrelation => ?_⟩
  · rw [reportsError_target_iff, and_iff_right hcatalog]
  · exact (namesTable_target_iff hstart hpolicy hrelation).mpr (.inl hcatalog)

/-- The line of a model in no catalog never reports an error, so it previews the model only when
there is none; and it names the table only when no name is left out of it. -/
theorem previews_target_iff_isWellNamed {c : Config} {policy : Policy}
    (hstart : Session.start c = .ok s) (hpolicy : m.policy = .ok policy)
    (hcatalog : m.catalogName = none) :
    Previews s m (modelLine m (ModelTarget.of s.registry m)) ↔ m.IsWellNamed := by
  have hquiet : ¬ReportsError m (modelLine m (ModelTarget.of s.registry m)) := by
    rw [reportsError_target_iff, hpolicy, hcatalog]
    simp
  have hrelations := Session.exists_relationOf_eq_error_iff (s := s) hcatalog
  constructor
  · intro hpreviews
    -- the line is quiet, so the model has a relation to compare the named table with
    have hfound : ¬∃ e, s.relationOf m = .error e := fun herror =>
      hquiet (hpreviews.reportsError_iff.mpr (.inr herror))
    obtain ⟨relation, hrelation⟩ : ∃ relation, s.relationOf m = .ok relation := by
      cases hresult : s.relationOf m with
      | error e => exact absurd ⟨e, hresult⟩ hfound
      | ok relation => exact ⟨relation, rfl⟩
    have hnames := hpreviews.namesTable policy relation hpolicy hrelation
    rw [namesTable_target_iff hstart hpolicy hrelation, hcatalog] at hnames
    obtain ⟨hdatabase, hschema⟩ := hnames.resolve_left Bool.false_ne_true
    rw [hrelations, Bool.not_eq_true] at hfound
    exact ⟨hdatabase, hschema, hfound⟩
  · rintro ⟨hdatabase, hschema, hblank⟩
    refine ⟨iff_of_false hquiet ?_, fun policy' relation hpolicy' hrelation => ?_⟩
    · rintro (⟨e, he⟩ | herror)
      · rw [hpolicy] at he
        cases he
      · rw [hrelations, hblank] at herror
        cases herror
    · exact (namesTable_target_iff hstart hpolicy' hrelation).mpr (.inr ⟨hdatabase, hschema⟩)

/-- The three kinds of models together. -/
theorem describes_target {c : Config} (hstart : Session.start c = .ok s) (m : Model) :
    Describes s m (modelLine m (ModelTarget.of s.registry m)) := by
  refine ⟨reportsError_target_iff, ?_⟩
  cases hpolicy : m.policy with
  | error e => exact iff_of_true (previews_target_of_policy_error hpolicy) (.inl ⟨e, rfl⟩)
  | ok policy =>
    cases hcatalog : m.catalogName with
    | none =>
      rw [previews_target_iff_isWellNamed hstart hpolicy hcatalog]
      simp
    | some name =>
      refine iff_of_true (previews_target_of_isSome hstart ?_) (.inr (.inl rfl))
      rw [hcatalog]
      rfl

end Lines

/-! ### Runs -/

theorem output_listModels (r : Registry) (manifest : Manifest) :
    (listModels r manifest).output = (manifest.incrementalModels.map Model.ofNode).map fun m =>
      modelLine m (ModelTarget.of r m) := by
  rw [listModels, modelTargets, List.map_map]
  rfl

theorem code_listModels_eq_zero_iff (r : Registry) (manifest : Manifest) :
    (listModels r manifest).status.code = 0
      ↔ ∀ m ∈ manifest.incrementalModels.map Model.ofNode,
          ¬∃ e, ModelTarget.of r m = .error e := by
  have hany : (modelTargets r manifest).any isFailure = true
      ↔ ∃ m ∈ manifest.incrementalModels.map Model.ofNode,
          ∃ e, ModelTarget.of r m = .error e := by
    rw [modelTargets, List.any_map, List.any_eq_true]
    refine exists_congr fun m => and_congr_right fun _ => ?_
    rw [Function.comp_apply, isFailure]
    cases ModelTarget.of r m <;> simp [Except.isOk, Except.toBool]
  change ExitStatus.code (if _ then _ else _) = 0 ↔ _
  split
  · next hfailure =>
    obtain ⟨m, hm, herror⟩ := hany.mp hfailure
    exact iff_of_false (by decide) fun hquiet => hquiet m hm herror
  · next hfailure =>
    refine iff_of_true rfl fun m hm herror => ?_
    exact hfailure (hany.mpr ⟨m, hm, herror⟩)

variable {su : Surroundings} {c : Config} {s : Session} {path : String} {manifest : Manifest}

/-- A run that has its manifest lists its models by the registry of a session. -/
theorem run_models (verbose : Bool) (hstart : Session.start c = .ok s)
    (hload : Manifest.load path (su.read path) = .ok manifest) :
    Command.run su c verbose (.models path)
      = .done ((listModels s.registry manifest).announcedBy
          (if verbose then ["Loading manifest from: " ++ path] else [])) := by
  obtain ⟨hall, rfl⟩ := Session.start_eq_ok_iff.mp hstart
  have hregistry : projectRegistry c = .ok (Session.ofConfig c).registry :=
    Session.registerAll_of_forall hall
  rw [Command.run, runModels, hload, hregistry]

/-- **The preview of `models`.** A run that has its manifest prints a line for each incremental
model, and succeeds exactly when no line reports an error. A line previews its model exactly when
the policy of the model is refused, or the model is in a catalog, or it is well named. -/
theorem models_lists_targets (verbose : Bool) (hstart : Session.start c = .ok s)
    (hload : Manifest.load path (su.read path) = .ok manifest) :
    ∃ t, Command.run su c verbose (.models path) = .done t
      ∧ List.Forall₂ (Describes s) (manifest.incrementalModels.map Model.ofNode) t.output
      ∧ (t.status.code = 0 ↔ List.Forall₂ (fun m line => ¬ReportsError m line)
          (manifest.incrementalModels.map Model.ofNode) t.output) := by
  refine ⟨_, run_models verbose hstart hload, ?_, ?_⟩
  · rw [Transcript.announcedBy, output_listModels, List.forall₂_map_right_iff, List.forall₂_same]
    intro m _
    exact describes_target hstart m
  · rw [Transcript.announcedBy, output_listModels, List.forall₂_map_right_iff, List.forall₂_same]
    simp only [reportsError_modelLine_iff]
    exact code_listModels_eq_zero_iff s.registry manifest

/-! ### A folder with one model -/

/-- The text of a manifest with one incremental model, of an alias and in a catalog. -/
def manifestLines (tableName catalog : String) : List String :=
  ["\x7b\"metadata\": \x7b", "\"dbt_schema_version\": \"v11\",", "\"dbt_version\": \"1.9.0\",",
    "\"generated_at\": \"now\"\x7d,", "\"nodes\": \x7b\"t\": \x7b", "\"unique_id\": \"model.t\",",
    "\"name\": \"t\",", "\"resource_type\": \"model\",", "\"package_name\": \"shop\",",
    "\"path\": \"t.sql\",", "\"original_file_path\": \"t.sql\",", "\"schema\": \"core\",",
    "\"alias\": \"" ++ tableName ++ "\",", "\"config\": \x7b", "\"materialized\":",
    "\"incremental\",", "\"catalog\": \"" ++ catalog ++ "\"\x7d\x7d\x7d\x7d"]

/-- A folder with this manifest. -/
def modelFolder (tableName catalog : String) : Surroundings where
  read path :=
    if path = "manifest.json" then .ok (linesText (manifestLines tableName catalog))
    else .error .notFound
  environment _ := none
  now := "2026-01-01T00:00:00+00:00"

theorem toList_linesText (lines : List String) :
    (linesText lines).toList = lines.flatMap fun line => line.toList ++ ['\n'] := by
  rw [linesText]
  induction lines with
  | nil => rfl
  | cons line lines ih =>
    rw [List.map_cons, String.join_cons, String.toList_append, String.toList_append, ih]
    rfl

/-- The data that characters are read as. A text of several lines is evaluated by the characters
of each line, since taking the characters of a long text is slow. -/
def readChars (cs : List Char) : Option Data :=
  ((Json.spaces *> Json.tree (cs.length + 1) 0 <* Json.spaces <* Text.Scan.atEnd) cs).map Prod.fst

theorem parse_eq_readChars (s : String) : Json.parse s = readChars s.toList := by
  rw [Json.parse, Text.Scan.run, readChars, String.length_toList]
  cases (Json.spaces *> Json.tree (s.length + 1) 0 <* Json.spaces <* Text.Scan.atEnd) s.toList <;>
    rfl

/-- What a folder holds when its manifest is seen to have one model that is loaded
incrementally. -/
theorem exists_model_of_seen {su : Surroundings} {path : String} {policy : Policy}
    {catalog : Option String} {identifier : String}
    (h : (Manifest.load path (su.read path)).toOption.map (fun manifest =>
        manifest.nodes.values.map fun n => (n.isIncremental, (Model.ofNode n).policy.toOption,
          (Model.ofNode n).catalogName, (Model.ofNode n).identifier))
      = some [(true, some policy, catalog, identifier)]) :
    ∃ manifest m, Manifest.load path (su.read path) = .ok manifest
      ∧ manifest.incrementalModels.map Model.ofNode = [m]
      ∧ m.policy = .ok policy ∧ m.catalogName = catalog ∧ m.identifier = identifier := by
  obtain ⟨manifest, hload, hvalues⟩ := Option.map_eq_some_iff.mp h
  obtain ⟨n, hn, hseen⟩ := List.map_eq_singleton_iff.mp hvalues
  simp only [Prod.mk.injEq] at hseen
  obtain ⟨hincremental, hpolicy, hcatalog, hidentifier⟩ := hseen
  refine ⟨manifest, Model.ofNode n, eq_ok_of_toOption hload, ?_, eq_ok_of_toOption hpolicy,
    hcatalog, hidentifier⟩
  rw [Manifest.incrementalModels, hn, ManifestNode.incremental,
    List.filter_cons_of_pos hincremental, List.filter_nil, List.mergeSort_singleton]
  rfl

theorem start_default : Session.start {} = .ok (.ofConfig {}) :=
  Session.start_of_forall fun _ h => absurd h List.not_mem_nil

/-- A model in a catalog that is not there has an error, which is reported. -/
theorem models_lists_targets_lost :
    ∃ manifest m line t,
      Manifest.load "manifest.json" ((modelFolder "t" "lost").read "manifest.json") = .ok manifest
      ∧ manifest.incrementalModels.map Model.ofNode = [m]
      ∧ Command.run (modelFolder "t" "lost") {} false (.models "manifest.json") = .done t
      ∧ t.output = [line]
      ∧ ReportsError m line ∧ Previews (.ofConfig {}) m line
      ∧ t.status.code ≠ 0 := by
  have hread : (modelFolder "t" "lost").read "manifest.json"
      = .ok (linesText (manifestLines "t" "lost")) := rfl
  obtain ⟨manifest, m, hload, hmodels, hpolicy, hcatalog, -⟩ :=
    @exists_model_of_seen (modelFolder "t" "lost") "manifest.json" .ignore (some "lost") "t" (by
      rw [hread, Manifest.load, parse_eq_readChars, toList_linesText]
      decide +kernel)
  obtain ⟨t, hrun, hlines, hstatus⟩ := models_lists_targets false start_default hload
  rw [hmodels] at hlines hstatus
  obtain ⟨line, others, hdescribes, hothers, houtput⟩ := List.forall₂_cons_left_iff.mp hlines
  obtain rfl := List.forall₂_nil_left_iff.mp hothers
  have herror : ∃ e, (Session.ofConfig {}).relationOf m = .error e := by
    rw [Session.relationOf_of_catalogName hcatalog]
    cases hplace : (Session.ofConfig {}).registry.placeIn "lost" m with
    | error e => exact ⟨e, rfl⟩
    | ok p =>
      obtain ⟨i, hi, -⟩ := exists_eq_ok_of_bind hplace
      have hfound : ((Session.ofConfig {}).registry.lookup "lost").isOk = false := by
        decide +kernel
      rw [hi] at hfound
      cases hfound
  have hreports : ReportsError m line :=
    hdescribes.reportsError_iff.mpr (.inr ⟨by rw [hcatalog]; rfl, herror⟩)
  refine ⟨manifest, m, line, t, hload, hmodels, hrun, houtput, hreports, ?_, ?_⟩
  · exact hdescribes.previews_iff.mpr (.inr (.inl (by rw [hcatalog]; rfl)))
  · rw [ne_eq, hstatus, houtput]
    exact fun hquiet => (List.forall₂_cons.mp hquiet).1 hreports

/-- A model of a blank alias has no relation, but its line reports no error. -/
theorem models_misses_blank_alias :
    ∃ manifest m line t,
      Session.start {} = .ok (.ofConfig {})
      ∧ Manifest.load "manifest.json" ((modelFolder " " "").read "manifest.json") = .ok manifest
      ∧ manifest.incrementalModels.map Model.ofNode = [m]
      ∧ Command.run (modelFolder " " "") {} false (.models "manifest.json") = .done t
      ∧ t.output = [line]
      ∧ (∃ e, (Session.ofConfig {}).relationOf m = .error e) ∧ ¬ReportsError m line
      ∧ t.status.code = 0 := by
  have hread : (modelFolder " " "").read "manifest.json"
      = .ok (linesText (manifestLines " " "")) := rfl
  obtain ⟨manifest, m, hload, hmodels, hpolicy, hcatalog, hidentifier⟩ :=
    @exists_model_of_seen (modelFolder " " "") "manifest.json" .ignore none " " (by
      rw [hread, Manifest.load, parse_eq_readChars, toList_linesText]
      decide +kernel)
  refine ⟨manifest, m, modelLine m (ModelTarget.of (Session.ofConfig {}).registry m), _,
    start_default, hload, hmodels, run_models false start_default hload, ?_, ?_, ?_, ?_⟩
  · rw [Transcript.announcedBy, output_listModels, hmodels]
    rfl
  · rw [Session.exists_relationOf_eq_error_iff hcatalog, hidentifier]
    decide
  · rw [reportsError_target_iff, hpolicy, hcatalog]
    simp
  · refine (code_listModels_eq_zero_iff _ _).mpr ?_
    rw [hmodels, List.forall_mem_singleton, ModelTarget.of_catalogName_eq_none hpolicy hcatalog]
    rintro ⟨e, he⟩
    cases he

end CommandLine

end SchemaDrift
