import SchemaDrift.Proofs.Catalog.Registrations

/-!
# Which catalog a model is placed in

A model is placed in the catalog integration that it names, and a session gives it the relation of
its placement. Two settings can name the catalog: a newer and an older spelling of the same
setting. A setting **declares** a name when the name is there and not blank.

* `Session.relationOf_of_catalogName`, `Session.relationOf_of_catalogName_eq_none`: the relation of
  a model is that of its placement, or else is created of its names.
* `Registry.placesThrough_of_catalogName`: what a name finds decides the placement, and a name that
  finds nothing is an error.
* `Registry.placesDeclared_iff`: a declared catalog is not skipped, unless the model **hides** it:
  a blank name under the newer spelling is taken for no catalog at all, though the older spelling
  declares one.
-/

namespace SchemaDrift

/-! ### Results of steps -/

/-- What two steps give, the second gives after the first. -/
theorem exists_eq_ok_of_bind {ε α β : Type} {x : Except ε α} {f : α → Except ε β} {b : β}
    (h : (x >>= f) = .ok b) : ∃ a, x = .ok a ∧ f a = .ok b := by
  cases x with
  | error e => cases h
  | ok a => exact ⟨a, rfl, h⟩

theorem eq_ok_of_mapError {ε δ α : Type} {x : Except ε α} {f : ε → δ} {a : α}
    (h : x.mapError f = .ok a) : x = .ok a := by
  cases x with
  | error e => cases h
  | ok b => exact congrArg Except.ok (Except.ok.inj h)

theorem eq_ok_of_toOption {ε α : Type} {x : Except ε α} {a : α} (h : x.toOption = some a) :
    x = .ok a := by
  cases x with
  | error e => cases h
  | ok b => exact congrArg Except.ok (Option.some.inj h)

/-! ### Placements -/

namespace Integration

variable {i : Integration} {m : Model}

theorem format_of_modelRelation {format : StorageFormat} {r : Relation}
    (h : modelRelation m format = .ok r) : r.format = format := by
  rw [modelRelation] at h
  cases hcreate : Relation.create m.database m.schema m.identifier with
  | error e =>
    rw [hcreate] at h
    cases h
  | ok created =>
    rw [hcreate] at h
    obtain rfl := Except.ok.inj h
    rfl

/-- A model is placed in the integration that it was given to, with a relation in its format. -/
theorem of_place {p : Placement} (h : i.place m = .ok p) :
    p.catalogName = i.name ∧ p.relation.format = i.format := by
  rw [place] at h
  split at h
  all_goals
    obtain ⟨location, -, h⟩ := exists_eq_ok_of_bind h
    obtain ⟨relation, hrelation, h⟩ := exists_eq_ok_of_bind h
    obtain rfl := Except.ok.inj h
    exact ⟨rfl, format_of_modelRelation hrelation⟩

end Integration

namespace Registry

variable {r : Registry} {m : Model} {name : String}

theorem place_of_catalogName (h : m.catalogName = some name) :
    r.place m = (r.placeIn name m).map some := by rw [place, h]

theorem place_of_catalogName_eq_none (h : m.catalogName = none) : r.place m = .ok none := by
  rw [place, h]

/-- Only a model that names no catalog is not placed. -/
theorem place_eq_ok_none_iff : r.place m = .ok none ↔ m.catalogName = none := by
  refine ⟨fun h => ?_, place_of_catalogName_eq_none⟩
  cases hcatalog : m.catalogName with
  | none => rfl
  | some name =>
    rw [place_of_catalogName hcatalog] at h
    cases hplace : r.placeIn name m with
    | error e =>
      rw [hplace] at h
      cases h
    | ok p =>
      rw [hplace] at h
      cases h

/-- What is placed under a name lies in the integration that the name finds. -/
theorem exists_lookup_of_placeIn {p : Placement} (h : r.placeIn name m = .ok p) :
    ∃ i, r.lookup name = .ok i ∧ i.place m = .ok p := by
  rw [placeIn] at h
  obtain ⟨i, hi, h⟩ := exists_eq_ok_of_bind h
  exact ⟨i, hi, eq_ok_of_mapError h⟩

/-- A model is placed in an integration that is known by the folded name. -/
theorem catalogName_of_placeIn {casing : Casing} {cs : List CatalogConfig} {p : Placement}
    (h : (declared casing cs).placeIn name m = .ok p) :
    p.catalogName = (declared casing cs).key name := by
  obtain ⟨i, hi, hplace⟩ := exists_lookup_of_placeIn h
  rw [(Integration.of_place hplace).1, name_of_lookup_declared hi, key_eq, casing_declared]

end Registry

/-! ### The relation of a model -/

namespace Session

variable {s : Session} {m : Model} {name : String}

/-- The relation of a model in a catalog is placed by the registry, and quoted as the session
quotes. -/
theorem relationOf_of_catalogName (h : m.catalogName = some name) :
    s.relationOf m
      = (s.registry.placeIn name m).map fun p => { p.relation with quoting := s.quoting } := by
  rw [relationOf, placement, Registry.place_of_catalogName h]
  cases s.registry.placeIn name m <;> rfl

/-- The relation of a model in no catalog is created of its names. -/
theorem relationOf_of_catalogName_eq_none (h : m.catalogName = none) :
    s.relationOf m = (s.plainRelation m).mapError .configuration := by
  rw [relationOf, placement, Registry.place_of_catalogName_eq_none h]
  rfl

/-- Only a blank identifier keeps a model in no catalog from having a relation. -/
theorem exists_relationOf_eq_error_iff (h : m.catalogName = none) :
    (∃ e, s.relationOf m = .error e) ↔ Text.isBlankText m.identifier = true := by
  rw [relationOf_of_catalogName_eq_none h, plainRelation, Relation.create]
  split
  · next hblank => exact iff_of_true ⟨_, rfl⟩ hblank
  · next hnonblank =>
    refine iff_of_false ?_ hnonblank
    rintro ⟨e, he⟩
    cases he

/-- Empty names are left out of the name of the relation of a model in no catalog. -/
theorem qualifiedName_of_relationOf {r : Relation} (h : m.catalogName = none)
    (hr : s.relationOf m = .ok r) :
    r.qualifiedName
      = dottedName (m.database.filter fun s => !s.isEmpty) (m.schema.filter fun s => !s.isEmpty)
          m.identifier := by
  rw [relationOf_of_catalogName_eq_none h, plainRelation, Relation.create] at hr
  split at hr
  · cases hr
  · obtain rfl := Except.ok.inj hr
    rfl

end Session

/-! ### Declared catalogs -/

/-- A setting **declares** a name that is there and not blank. -/
def Declares (setting : Option String) (name : String) : Prop :=
  setting = some name ∧ Text.isBlankText name = false

theorem not_declares_of_isBlankText {blank : String} (h : Text.isBlankText blank = true)
    (name : String) : ¬Declares (some blank) name := by
  rintro ⟨hname, hnonblank⟩
  obtain rfl := Option.some.inj hname
  rw [h] at hnonblank
  cases hnonblank

namespace Model

variable {m : Model} {name : String}

/-- The newer spelling goes before the older, which counts only where the newer is not there. -/
theorem catalogName_eq_some_iff :
    m.catalogName = some name ↔ Declares m.settings.catalogName name
      ∨ m.settings.catalogName = none ∧ Declares m.settings.catalog name := by
  rw [catalogName, Option.filter_eq_some_iff, Option.or_eq_some_iff]
  simp only [Declares, Bool.not_eq_true']
  rw [or_and_right, and_assoc]

/-- A model **hides** its catalog when the older spelling declares it, but the newer is blank. -/
def HidesCatalog (m : Model) : Prop :=
  (∃ blank, m.settings.catalogName = some blank ∧ Text.isBlankText blank = true)
    ∧ ∃ name, Declares m.settings.catalog name

/-- The newer spelling declares a name, or is not there, or is blank. -/
theorem catalogName_cases (m : Model) :
    (∃ name, Declares m.settings.catalogName name) ∨ m.settings.catalogName = none
      ∨ ∃ blank, m.settings.catalogName = some blank ∧ Text.isBlankText blank = true := by
  cases hnewer : m.settings.catalogName with
  | none => exact .inr (.inl rfl)
  | some s =>
    cases hblank : Text.isBlankText s with
    | true => exact .inr (.inr ⟨s, rfl, hblank⟩)
    | false => exact .inl ⟨s, rfl, hblank⟩

/-- A model that hides its catalog names none. -/
theorem catalogName_of_hidesCatalog (h : m.HidesCatalog) : m.catalogName = none := by
  obtain ⟨blank, hnewer, hblank⟩ := h.1
  rw [Option.eq_none_iff_forall_ne_some]
  intro name hname
  rcases catalogName_eq_some_iff.mp hname with hdeclared | ⟨hnone, -⟩
  · rw [hnewer] at hdeclared
    exact not_declares_of_isBlankText hblank name hdeclared
  · rw [hnewer] at hnone
    cases hnone

/-- Otherwise the older spelling counts wherever the newer declares nothing. -/
theorem catalogName_eq_some_of_older (h : ¬m.HidesCatalog)
    (hnewer : ∀ name, ¬Declares m.settings.catalogName name)
    (holder : Declares m.settings.catalog name) : m.catalogName = some name := by
  rcases m.catalogName_cases with ⟨name', hname'⟩ | hnone | hblank
  · exact absurd hname' (hnewer name')
  · exact catalogName_eq_some_iff.mpr (.inr ⟨hnone, holder⟩)
  · exact absurd ⟨hblank, name, holder⟩ h

/-- A model that hides no catalog names none exactly when neither setting declares one. -/
theorem catalogName_eq_none_iff (h : ¬m.HidesCatalog) :
    m.catalogName = none ↔ (∀ name, ¬Declares m.settings.catalogName name)
      ∧ ∀ name, ¬Declares m.settings.catalog name := by
  constructor
  · intro hnone
    have hnewer : ∀ name, ¬Declares m.settings.catalogName name := fun name hname => by
      rw [catalogName_eq_some_iff.mpr (.inl hname)] at hnone
      cases hnone
    refine ⟨hnewer, fun name hname => ?_⟩
    rw [catalogName_eq_some_of_older h hnewer hname] at hnone
    cases hnone
  · rintro ⟨hnewer, holder⟩
    rw [Option.eq_none_iff_forall_ne_some]
    intro name hname
    rcases catalogName_eq_some_iff.mp hname with hdeclared | ⟨-, hdeclared⟩
    · exact hnewer name hdeclared
    · exact holder name hdeclared

end Model

namespace Registry

variable {r : Registry} {m : Model} {name : String}

/-- A model is placed **through** a name in the integration that the name finds. Where it finds
none, the error of the lookup is the result. -/
def PlacesThrough (r : Registry) (name : String) (m : Model) : Prop :=
  r.place m = match r.lookup name with
    | .error e => .error e
    | .ok i => ((i.place m).mapError CatalogError.configuration).map some

theorem placesThrough_of_catalogName (h : m.catalogName = some name) : r.PlacesThrough name m := by
  rw [PlacesThrough, place_of_catalogName h, placeIn]
  cases r.lookup name <;> rfl

/-- A registry **places what is declared** when it skips no catalog that a model declares. -/
structure PlacesDeclared (r : Registry) (m : Model) : Prop where
  /-- A model is not placed exactly when neither setting declares a catalog. -/
  unplaced_iff : r.place m = .ok none
    ↔ (∀ name, ¬Declares m.settings.catalogName name) ∧ ∀ name, ¬Declares m.settings.catalog name
  /-- It is placed through the name that the newer spelling declares. -/
  newer : ∀ name, Declares m.settings.catalogName name → r.PlacesThrough name m
  /-- Where that declares none, it is placed through the name of the older spelling. -/
  older : (∀ name, ¬Declares m.settings.catalogName name) →
    ∀ name, Declares m.settings.catalog name → r.PlacesThrough name m

/-- **A declared catalog is skipped exactly when it is hidden.** Every other model is placed through
the name that it declares; one that hides its catalog is not placed at all. -/
theorem placesDeclared_iff (r : Registry) (m : Model) :
    (r.PlacesDeclared m ↔ ¬m.HidesCatalog) ∧ (m.HidesCatalog → r.place m = .ok none) := by
  have hidden : m.HidesCatalog → r.place m = .ok none := fun h =>
    place_of_catalogName_eq_none (Model.catalogName_of_hidesCatalog h)
  refine ⟨⟨fun hplaces hhides => ?_, fun hshows => ⟨?_, ?_, ?_⟩⟩, hidden⟩
  · obtain ⟨name, hname⟩ := hhides.2
    exact (hplaces.unplaced_iff.mp (hidden hhides)).2 name hname
  · rw [place_eq_ok_none_iff, Model.catalogName_eq_none_iff hshows]
  · intro name hname
    exact placesThrough_of_catalogName (Model.catalogName_eq_some_iff.mpr (.inl hname))
  · intro hnewer name hname
    exact placesThrough_of_catalogName (Model.catalogName_eq_some_of_older hshows hnewer hname)

/-- A catalog that is registered, and that a model declares under the older spelling, is skipped
because the newer spelling is there and blank. -/
theorem place_skips_hidden_catalog :
    let r : Registry := .withDefaults .upper
    let m : Model :=
      { Model.ofName (some "core") "events" with
        settings := { catalogName := some " ", catalog := some "SNOWFLAKE" } }
    (∀ name, ¬Declares m.settings.catalogName name)
      ∧ Declares m.settings.catalog "SNOWFLAKE"
      ∧ (∃ i, r.lookup "SNOWFLAKE" = .ok i)
      ∧ r.place m = .ok none := by
  intro r m
  have hblank : Text.isBlankText " " = true := by decide
  refine ⟨not_declares_of_isBlankText hblank, ⟨rfl, by decide⟩, ?_, ?_⟩
  · have hfound : (r.lookup "SNOWFLAKE").toOption = some (r.named .defaultBuiltIn) := by
      decide +kernel
    exact ⟨_, eq_ok_of_toOption hfound⟩
  · exact place_of_catalogName_eq_none
      (Model.catalogName_of_hidesCatalog ⟨⟨" ", rfl, hblank⟩, "SNOWFLAKE", rfl, by decide⟩)

end Registry

end SchemaDrift
