import SchemaDrift.Session

/-!
# What a registry remembers

Integrations are declared to a registry one after another. Each declaration is accepted or
refused; which of the two depends on the declaration and on the casing of the engine, never on
what was declared before. The registry is then a map in which the last writer wins:

* `find?_attempt`, `find?_attemptAll`: under a folded name lies the last declaration that was
  accepted under it, whatever was declared in between, and however its name was spelled.
* `keeps_last_registered`: what this means for those who look integrations up, for the names that
  are listed, and for a session, which starts only when all its declarations are accepted.

The two integrations that every project can use are declarations like any other
(`withDefaults_eq_attemptAll`), so a project can replace them.
-/

namespace SchemaDrift

/-- The **folded name** of an integration: its name without the blanks around it, folded. -/
def Casing.foldedName (casing : Casing) (name : String) : String := casing.fold (Text.trim name)

/-! ### Declarations -/

/-- The name of a kind, in capitals and without the blanks around it, is what selects it. -/
theorem CatalogKind.parse_eq_ok_iff {s : String} {kind : CatalogKind} :
    parse s = .ok kind ↔ Text.upper (Text.trim s) = kind.text := by
  rw [parse]
  generalize Text.upper (Text.trim s) = name
  by_cases hinfo : name = "INFO_SCHEMA"
  · subst hinfo
    cases kind <;> simp [text]
  · by_cases hbuilt : name = "BUILT_IN"
    · subst hbuilt
      cases kind <;> simp [text]
    · cases kind <;> simp [text, hinfo, hbuilt, Ne.symm hinfo, Ne.symm hbuilt]

/-- A declaration is **accepted** when its integration has a name, and a type that is known. -/
def CatalogConfig.IsAccepted (casing : Casing) (c : CatalogConfig) : Prop :=
  casing.foldedName c.name ≠ ""
    ∧ Text.upper (Text.trim c.catalogType) ∈ ["INFO_SCHEMA", "BUILT_IN"]

instance (casing : Casing) (c : CatalogConfig) : Decidable (c.IsAccepted casing) :=
  inferInstanceAs (Decidable (_ ∧ _))

/-- An integration **realizes** a declaration when it is what the declaration asks for. -/
structure Integration.Realizes (i : Integration) (casing : Casing) (c : CatalogConfig) :
    Prop where
  /-- It is known by the folded name. -/
  name : i.name = casing.foldedName c.name
  /-- It is of the declared type. -/
  kind : i.kind.text = Text.upper (Text.trim c.catalogType)
  /-- A format that is set, and not blank, is its format. -/
  format_of_set : ∀ s, c.tableFormat = some s → Text.isBlankText s = false →
    i.format = .ofTableFormat s
  /-- Otherwise it has the format of its type. -/
  format_of_unset : (∀ s, c.tableFormat = some s → Text.isBlankText s = true) →
    i.format = i.kind.defaultFormat
  /-- Only a built-in catalog has the external volume. -/
  externalVolume : i.externalVolume = if i.kind = .builtIn then c.externalVolume else none

theorem Integration.realizes_mk {casing : Casing} {c : CatalogConfig} {kind : CatalogKind}
    (h : Text.upper (Text.trim c.catalogType) = kind.text) :
    Realizes ⟨kind, { c with name := casing.foldedName c.name }⟩ casing c where
  name := rfl
  kind := h.symm
  format_of_set s hs hblank := by simp [format, hs, Option.filter_some, hblank]
  format_of_unset hunset := by
    rw [format]
    cases hformat : c.tableFormat with
    | none => simp
    | some s => simp [Option.filter_some, hunset s hformat]
  externalVolume := by cases kind <;> rfl

namespace Registry

variable {r : Registry} {c : CatalogConfig} {casing : Casing}

theorem key_eq (r : Registry) (name : String) : r.key name = r.casing.foldedName name := rfl

/-! ### One declaration -/

theorem integrationOf_eq_ok {kind : CatalogKind} (hname : r.casing.foldedName c.name ≠ "")
    (hkind : Text.upper (Text.trim c.catalogType) = kind.text) :
    r.integrationOf c = .ok ⟨kind, { c with name := r.casing.foldedName c.name }⟩ := by
  have hnonempty : (r.key c.name).isEmpty = false := by
    rwa [key_eq, Bool.eq_false_iff, ne_eq, String.isEmpty_iff]
  rw [integrationOf, hnonempty, CatalogKind.parse_eq_ok_iff.mpr hkind]
  rfl

/-- An accepted declaration makes an integration that realizes it. -/
theorem integrationOf_of_isAccepted (h : c.IsAccepted r.casing) :
    ∃ i, r.integrationOf c = .ok i ∧ i.Realizes r.casing c := by
  obtain ⟨hname, htype⟩ := h
  obtain ⟨kind, hkind⟩ :
      ∃ kind : CatalogKind, Text.upper (Text.trim c.catalogType) = kind.text := by
    rcases List.mem_cons.mp htype with hinfo | hbuilt
    · exact ⟨.infoSchema, hinfo⟩
    · exact ⟨.builtIn, List.mem_singleton.mp hbuilt⟩
  exact ⟨_, integrationOf_eq_ok hname hkind, Integration.realizes_mk hkind⟩

theorem integrationOf_of_not_isAccepted (h : ¬c.IsAccepted r.casing) :
    ∃ e, r.integrationOf c = .error e := by
  rw [integrationOf]
  split
  · exact ⟨_, rfl⟩
  · next hnonempty =>
    cases hparse : CatalogKind.parse c.catalogType with
    | error e => exact ⟨e, rfl⟩
    | ok kind =>
      refine absurd ⟨?_, ?_⟩ h
      · rwa [key_eq, String.isEmpty_iff] at hnonempty
      · rw [CatalogKind.parse_eq_ok_iff.mp hparse]
        cases kind <;> decide

/-- What a declaration makes depends on the casing of a registry only. -/
theorem integrationOf_congr {s : Registry} (h : r.casing = s.casing) (c : CatalogConfig) :
    r.integrationOf c = s.integrationOf c := by
  rw [integrationOf, integrationOf, key, key, h]

/-- A declaration is refused exactly when it is not accepted. -/
theorem register_eq_error_iff : (∃ e, r.register c = .error e) ↔ ¬c.IsAccepted r.casing := by
  rw [register]
  constructor
  · rintro ⟨e, he⟩ haccepted
    obtain ⟨i, hi, -⟩ := integrationOf_of_isAccepted haccepted
    rw [hi] at he
    cases he
  · intro h
    obtain ⟨e, he⟩ := integrationOf_of_not_isAccepted h
    exact ⟨e, by rw [he]; rfl⟩

/-- The registry after a declaration. One that is refused leaves it as it is. -/
def attempt (r : Registry) (c : CatalogConfig) : Registry :=
  match r.register c with
  | .ok (s, _) => s
  | .error _ => r

theorem attempt_of_not_isAccepted (h : ¬c.IsAccepted r.casing) : r.attempt c = r := by
  obtain ⟨e, he⟩ := register_eq_error_iff.mpr h
  rw [attempt, he]

theorem register_of_isAccepted (h : c.IsAccepted r.casing) :
    ∃ i, r.register c = .ok (r.attempt c, i) := by
  obtain ⟨i, hi, -⟩ := integrationOf_of_isAccepted h
  exact ⟨i, by rw [attempt, register, hi]; rfl⟩

@[simp]
theorem casing_attempt (r : Registry) (c : CatalogConfig) : (r.attempt c).casing = r.casing := by
  by_cases h : c.IsAccepted r.casing
  · obtain ⟨i, hi, -⟩ := integrationOf_of_isAccepted h
    rw [attempt, register, hi]
    rfl
  · rw [attempt_of_not_isAccepted h]

/-- A declaration that is accepted is found under its folded name; the other names find what they
found before. -/
theorem find?_attempt (r : Registry) (c : CatalogConfig) (k : String) :
    (r.attempt c).integrations.find? k
      = if c.IsAccepted r.casing ∧ r.casing.foldedName c.name = k then (r.integrationOf c).toOption
        else r.integrations.find? k := by
  by_cases h : c.IsAccepted r.casing
  · obtain ⟨i, hi, hrealizes⟩ := integrationOf_of_isAccepted h
    have hattempt : r.attempt c = r.insert i := by
      rw [attempt, register, hi]
      rfl
    rw [hattempt, insert, Dictionary.find?_insert, hrealizes.name, hi]
    simp only [h, true_and, eq_comm, Except.toOption]
  · rw [attempt_of_not_isAccepted h, if_neg fun hboth => h hboth.1]

/-! ### Several declarations -/

/-- The registry after several declarations, one after another. -/
def attemptAll (r : Registry) (cs : List CatalogConfig) : Registry := cs.foldl attempt r

/-- The **last** of several declarations that is accepted under a folded name. -/
def lastUnder? (casing : Casing) (cs : List CatalogConfig) (k : String) : Option CatalogConfig :=
  cs.reverse.find? fun c => c.IsAccepted casing ∧ casing.foldedName c.name = k

theorem attemptAll_append (r : Registry) (cs ds : List CatalogConfig) :
    r.attemptAll (cs ++ ds) = (r.attemptAll cs).attemptAll ds := List.foldl_append

@[simp]
theorem casing_attemptAll (r : Registry) (cs : List CatalogConfig) :
    (r.attemptAll cs).casing = r.casing := by
  induction cs generalizing r with
  | nil => rfl
  | cons c cs ih => exact (ih (r.attempt c)).trans (casing_attempt r c)

/-- A declaration that is refused leaves no trace in what is declared after it. -/
theorem attemptAll_of_not_isAccepted (r : Registry) (before after : List CatalogConfig)
    (h : ¬c.IsAccepted r.casing) :
    r.attemptAll (before ++ c :: after) = r.attemptAll (before ++ after) := by
  have hrefused : (r.attemptAll before).attempt c = r.attemptAll before :=
    attempt_of_not_isAccepted (by rwa [casing_attemptAll])
  rw [attemptAll_append, attemptAll_append]
  exact congrArg (attemptAll · after) hrefused

theorem isAccepted_of_lastUnder? {cs : List CatalogConfig} {k : String}
    (h : lastUnder? casing cs k = some c) :
    c ∈ cs ∧ c.IsAccepted casing ∧ casing.foldedName c.name = k := by
  refine ⟨List.mem_reverse.mp (List.mem_of_find?_eq_some h), ?_⟩
  simpa using List.find?_some h

theorem lastUnder?_cons (casing : Casing) (c : CatalogConfig) (cs : List CatalogConfig)
    (k : String) :
    lastUnder? casing (c :: cs) k
      = (lastUnder? casing cs k).or
          (if c.IsAccepted casing ∧ casing.foldedName c.name = k then some c else none) := by
  rw [lastUnder?, List.reverse_cons, List.find?_append, lastUnder?, List.find?_singleton]
  simp only [decide_eq_true_eq]

/-- The last declaration that was accepted under a name is what the name finds; a name under
which none was accepted finds what it found before. -/
theorem find?_attemptAll (r : Registry) (cs : List CatalogConfig) (k : String) :
    (r.attemptAll cs).integrations.find? k
      = (lastUnder? r.casing cs k).elim (r.integrations.find? k)
          fun c => (r.integrationOf c).toOption := by
  induction cs generalizing r with
  | nil => rfl
  | cons c cs ih =>
    have hsame : (r.attempt c).integrationOf = r.integrationOf :=
      funext (integrationOf_congr (casing_attempt r c))
    rw [attemptAll, List.foldl_cons, ← attemptAll, ih, casing_attempt, find?_attempt, hsame,
      lastUnder?_cons]
    -- a later declaration under the name hides this one
    cases lastUnder? r.casing cs k with
    | some d => rfl
    | none =>
      by_cases h : c.IsAccepted r.casing ∧ r.casing.foldedName c.name = k
      · rw [if_pos h, if_pos h]
        rfl
      · rw [if_neg h, if_neg h]
        rfl

/-! ### The registry of a project -/

/-- The declarations of the integrations that every project can use. -/
def defaults : List CatalogConfig :=
  [Integration.defaultInfoSchema.config, Integration.defaultBuiltIn.config]

/-- The registry after the declarations of a project. -/
def declared (casing : Casing) (cs : List CatalogConfig) : Registry :=
  (withDefaults casing).attemptAll cs

theorem isAccepted_of_mem_defaults (casing : Casing) : ∀ c ∈ defaults, c.IsAccepted casing := by
  cases casing <;> decide +kernel

/-- The integrations that every project can use are declared first, like any others. -/
theorem withDefaults_eq_attemptAll (casing : Casing) :
    withDefaults casing = (empty casing).attemptAll defaults := by
  -- they are put in without the checks of a declaration, but they would pass them
  have hattempt : ∀ (r : Registry) (i : Integration), r.casing = casing → i.config ∈ defaults →
      Text.upper (Text.trim i.config.catalogType) = i.kind.text →
      r.attempt i.config = r.insert (r.named i) := by
    rintro r i rfl hi hkind
    have hname := (isAccepted_of_mem_defaults r.casing i.config hi).1
    rw [attempt, register, integrationOf_eq_ok hname hkind]
    rfl
  have hinfo := hattempt (empty casing) .defaultInfoSchema rfl (by decide) (by decide +kernel)
  have hbuilt : ∀ r : Registry, r.casing = casing →
      r.attempt Integration.defaultBuiltIn.config = r.insert (r.named .defaultBuiltIn) :=
    fun r hr => hattempt r .defaultBuiltIn hr (by decide) (by decide +kernel)
  rw [defaults, attemptAll, List.foldl_cons, List.foldl_cons, List.foldl_nil, hinfo, hbuilt _ rfl]
  rfl

@[simp]
theorem casing_declared (casing : Casing) (cs : List CatalogConfig) :
    (declared casing cs).casing = casing := casing_attemptAll (withDefaults casing) cs

/-- What lies under a folded name in the registry of a project. -/
theorem find?_declared (casing : Casing) (cs : List CatalogConfig) (k : String) :
    (declared casing cs).integrations.find? k
      = (lastUnder? casing (defaults ++ cs) k).elim none
          fun c => ((empty casing).integrationOf c).toOption := by
  rw [declared, withDefaults_eq_attemptAll, ← attemptAll_append, find?_attemptAll]
  rfl

theorem lookup_declared_of_lastUnder? {cs : List CatalogConfig} {name : String}
    (h : lastUnder? casing (defaults ++ cs) (casing.foldedName name) = some c) :
    ∃ i, (declared casing cs).lookup name = .ok i ∧ i.Realizes casing c := by
  obtain ⟨-, haccepted, -⟩ := isAccepted_of_lastUnder? h
  obtain ⟨i, hi, hrealizes⟩ := integrationOf_of_isAccepted (r := empty casing) haccepted
  refine ⟨i, ?_, hrealizes⟩
  rw [lookup, find?, key_eq, casing_declared, find?_declared, h, Option.elim_some, hi]
  rfl

theorem lookup_declared_of_lastUnder?_eq_none {cs : List CatalogConfig} {name : String}
    (h : lastUnder? casing (defaults ++ cs) (casing.foldedName name) = none) :
    (declared casing cs).lookup name
      = .error (.notFound (casing.foldedName name) (declared casing cs).names) := by
  rw [lookup, find?, key_eq, casing_declared, find?_declared, h]
  rfl

/-- What a name finds is known by the folded name. -/
theorem name_of_lookup_declared {cs : List CatalogConfig} {name : String} {i : Integration}
    (h : (declared casing cs).lookup name = .ok i) : i.name = casing.foldedName name := by
  cases hlast : lastUnder? casing (defaults ++ cs) (casing.foldedName name) with
  | none =>
    rw [lookup_declared_of_lastUnder?_eq_none hlast] at h
    cases h
  | some c =>
    obtain ⟨j, hj, hrealizes⟩ := lookup_declared_of_lastUnder? hlast
    obtain ⟨-, -, hname⟩ := isAccepted_of_lastUnder? hlast
    rw [hj] at h
    obtain rfl := Except.ok.inj h
    exact hrealizes.name.trans hname

/-- The names of a registry are the folded names that were accepted. -/
theorem mem_names_declared {cs : List CatalogConfig} {k : String} :
    k ∈ (declared casing cs).names
      ↔ ∃ c ∈ defaults ++ cs, c.IsAccepted casing ∧ casing.foldedName c.name = k := by
  rw [names, Dictionary.mem_keys_iff, find?_declared]
  constructor
  · rintro ⟨i, hi⟩
    cases hlast : lastUnder? casing (defaults ++ cs) k with
    | none =>
      rw [hlast] at hi
      cases hi
    | some c => exact ⟨c, isAccepted_of_lastUnder? hlast⟩
  · rintro ⟨c, hc, hunder⟩
    obtain ⟨d, hlast⟩ : ∃ d, lastUnder? casing (defaults ++ cs) k = some d := by
      rw [← Option.isSome_iff_exists, lastUnder?, List.find?_isSome]
      exact ⟨c, List.mem_reverse.mpr hc, decide_eq_true hunder⟩
    obtain ⟨-, haccepted, -⟩ := isAccepted_of_lastUnder? hlast
    obtain ⟨i, hi, -⟩ := integrationOf_of_isAccepted (r := empty casing) haccepted
    exact ⟨i, by rw [hlast, Option.elim_some, hi]; rfl⟩

end Registry

/-! ### Sessions -/

namespace Session

variable {r : Registry} {c : CatalogConfig}

theorem registerAll_cons (r : Registry) (c : CatalogConfig) (cs : List CatalogConfig) :
    registerAll r (c :: cs) = ((r.register c).map (·.1)).bind fun s => registerAll s cs := rfl

/-- Declarations that are accepted are all registered; the first that is refused ends it. -/
theorem registerAll_append {before : List CatalogConfig}
    (h : ∀ d ∈ before, d.IsAccepted r.casing) (after : List CatalogConfig) :
    registerAll r (before ++ after) = registerAll (r.attemptAll before) after := by
  induction before generalizing r with
  | nil => rfl
  | cons d before ih =>
    obtain ⟨i, hi⟩ := Registry.register_of_isAccepted (h d List.mem_cons_self)
    have hrest : ∀ d' ∈ before, d'.IsAccepted (r.attempt d).casing := fun d' hd' => by
      rw [Registry.casing_attempt]
      exact h d' (List.mem_cons_of_mem _ hd')
    rw [List.cons_append, registerAll_cons, hi]
    exact ih hrest

theorem registerAll_of_forall {cs : List CatalogConfig} (h : ∀ d ∈ cs, d.IsAccepted r.casing) :
    registerAll r cs = .ok (r.attemptAll cs) := by
  have hall := registerAll_append h []
  rw [List.append_nil] at hall
  exact hall

theorem registerAll_of_refused {before : List CatalogConfig} {e : ConfigurationError}
    (h : ∀ d ∈ before, d.IsAccepted r.casing) (he : (r.attemptAll before).register c = .error e)
    (after : List CatalogConfig) : registerAll r (before ++ c :: after) = .error e := by
  rw [registerAll_append h, registerAll_cons, he]
  rfl

/-- Either all declarations are accepted, or there is a first one that is not. -/
theorem forall_isAccepted_or_first (casing : Casing) (cs : List CatalogConfig) :
    (∀ c ∈ cs, c.IsAccepted casing) ∨ ∃ before c after, cs = before ++ c :: after
      ∧ (∀ d ∈ before, d.IsAccepted casing) ∧ ¬c.IsAccepted casing := by
  cases hfind : cs.find? fun c => ¬c.IsAccepted casing with
  | none => exact .inl (by simpa using hfind)
  | some c =>
    obtain ⟨hc, before, after, hcs, hbefore⟩ := List.find?_eq_some_iff_append.mp hfind
    exact .inr ⟨before, c, after, hcs, by simpa using hbefore, by simpa using hc⟩

/-- The session of a project whose declarations are all accepted. -/
def ofConfig (config : Config) : Session :=
  { engine := config.engine, quoting := config.quotePolicy,
    registry := .declared config.engine.casing config.catalogs }

variable {config : Config}

theorem start_of_forall (h : ∀ c ∈ config.catalogs, c.IsAccepted config.engine.casing) :
    start config = .ok (ofConfig config) := by
  have hall : registerAll (.withDefaults config.engine.casing) config.catalogs
      = .ok (.declared config.engine.casing config.catalogs) := registerAll_of_forall h
  rw [start, hall, ofConfig]

theorem start_of_refused {before after : List CatalogConfig} {e : ConfigurationError}
    (hcatalogs : config.catalogs = before ++ c :: after)
    (h : ∀ d ∈ before, d.IsAccepted config.engine.casing)
    (he : (Registry.declared config.engine.casing before).register c = .error e) :
    start config = .error (.configuration e) := by
  have hrefused : registerAll (.withDefaults config.engine.casing) config.catalogs = .error e := by
    rw [hcatalogs]
    exact registerAll_of_refused h he after
  rw [start, hrefused]

/-- A session starts exactly when every declaration of its project is accepted. -/
theorem start_eq_ok_iff {s : Session} :
    start config = .ok s
      ↔ (∀ c ∈ config.catalogs, c.IsAccepted config.engine.casing) ∧ s = ofConfig config := by
  constructor
  · intro h
    rcases forall_isAccepted_or_first config.engine.casing config.catalogs with
      hall | ⟨before, c, after, hcatalogs, hbefore, hc⟩
    · rw [start_of_forall hall] at h
      exact ⟨hall, (Except.ok.inj h).symm⟩
    · obtain ⟨e, he⟩ : ∃ e, (Registry.declared config.engine.casing before).register c
          = .error e := Registry.register_eq_error_iff.mpr (by rwa [Registry.casing_declared])
      rw [start_of_refused hcatalogs hbefore he] at h
      cases h
  · rintro ⟨hall, rfl⟩
    exact start_of_forall hall

end Session

/-! ### The last registration wins -/

namespace Registry

/-- The registry of a project **keeps the last**: it is a map from folded names in which the last
declaration that is accepted under a name wins. -/
structure KeepsLast (casing : Casing) (cs : List CatalogConfig) : Prop where
  /-- The declarations that every project starts with are accepted. -/
  seeds : ∀ c ∈ defaults, c.IsAccepted casing
  /-- A declaration is refused when its name folds to nothing or its type is not known. -/
  refuses : ∀ c, (∃ e, (declared casing cs).register c = .error e)
    ↔ casing.foldedName c.name = ""
      ∨ Text.upper (Text.trim c.catalogType) ∉ ["INFO_SCHEMA", "BUILT_IN"]
  /-- A declaration that is refused leaves no trace. -/
  forgets : ∀ c before after, cs = before ++ c :: after →
    (∃ e, (declared casing before).register c = .error e) →
    declared casing cs = declared casing (before ++ after)
  /-- A name finds what realizes the last declaration that was accepted under it. -/
  finds : ∀ name c, lastUnder? casing (defaults ++ cs) (casing.foldedName name) = some c →
    ∃ i, (declared casing cs).lookup name = .ok i ∧ i.Realizes casing c
  /-- A name under which none was accepted is not found. -/
  misses : ∀ name, lastUnder? casing (defaults ++ cs) (casing.foldedName name) = none →
    (declared casing cs).lookup name
      = .error (.notFound (casing.foldedName name) (declared casing cs).names)
  /-- The names are listed in order. -/
  sorted : (declared casing cs).names.Pairwise (· < ·)
  /-- They are the folded names that were accepted. -/
  lists : ∀ k, k ∈ (declared casing cs).names
    ↔ ∃ c ∈ defaults ++ cs, c.IsAccepted casing ∧ casing.foldedName c.name = k
  /-- A session with these declarations starts when all are accepted, with this registry. -/
  starts : ∀ config : Config, config.engine.casing = casing → config.catalogs = cs → ∀ s,
    (Session.start config = .ok s ↔ (∀ c ∈ cs, c.IsAccepted casing)
      ∧ s = ⟨config.engine, config.quotePolicy, declared casing cs⟩)
  /-- Otherwise it fails with the error of the first that is refused. -/
  fails : ∀ config : Config, config.engine.casing = casing → config.catalogs = cs →
    ∀ c before after e, cs = before ++ c :: after → (∀ d ∈ before, d.IsAccepted casing) →
    (declared casing before).register c = .error e →
    Session.start config = .error (.configuration e)

/-- **The last registration wins**, whatever was declared before and in whatever spelling. -/
theorem keeps_last_registered (casing : Casing) (cs : List CatalogConfig) :
    KeepsLast casing cs where
  seeds := isAccepted_of_mem_defaults casing
  refuses c := by
    rw [register_eq_error_iff, casing_declared, CatalogConfig.IsAccepted,
      Decidable.not_and_iff_not_or_not, Decidable.not_not]
  forgets c before after hcs hrefused := by
    rw [register_eq_error_iff, casing_declared] at hrefused
    rw [hcs]
    exact attemptAll_of_not_isAccepted (withDefaults casing) before after hrefused
  finds _ _ h := lookup_declared_of_lastUnder? h
  misses _ h := lookup_declared_of_lastUnder?_eq_none h
  sorted := Dictionary.keys_sorted _
  lists _ := mem_names_declared
  starts := by
    rintro config rfl rfl s
    exact Session.start_eq_ok_iff
  fails := by
    rintro config rfl rfl c before after e hcs hbefore he
    exact Session.start_of_refused hcs hbefore he

/-- The built-in catalog of every project, replaced under another spelling. -/
example : ((declared .lower [{ name := " Snowflake", catalogType := "info_schema" }]).lookup
    "SNOWFLAKE ").toOption.map (·.kind) = some .infoSchema := by decide +kernel

end Registry

end SchemaDrift
