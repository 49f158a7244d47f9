import SchemaDrift.Catalog.Integration

/-!
# The registry of catalog integrations

A registry finds integrations by name. Names are folded by the casing of the engine, both when
an integration is registered and when it is looked up, and an integration that is registered
under a name again takes the place of the earlier one.

## Main laws

* `find?_register`: what is registered is found under its name, and nothing else changes.
-/

namespace SchemaDrift

/-- Why a catalog integration or the placement of a model in it fails. -/
inductive CatalogError where
  /-- No integration has this name; the names that are registered. -/
  | notFound (name : String) (registered : List String)
  | configuration (cause : ConfigurationError)

namespace CatalogError

/-- The names that are registered, for a reader. -/
def registeredText (names : List String) : String := ", ".intercalate names

/-- What is reported about an error. -/
def message : CatalogError → String
  | .notFound name registered =>
    "Catalog integration '" ++ name ++ "' not found. Registered integrations: "
      ++ registeredText registered
  | .configuration cause => cause.message

/-- The finding that an error makes. -/
def diagnostic? (e : CatalogError) : Option Diagnostic :=
  match e with
  | .notFound _ _ =>
    some { code := .catalogIntegrationNotFound, severity := .error, message := e.message }
  | .configuration _ => none

end CatalogError

/-- A **registry** of catalog integrations, by their folded names. -/
structure Registry where
  casing : Casing
  integrations : Dictionary Integration
deriving DecidableEq

namespace Registry

/-- A registry without integrations. -/
def empty (casing : Casing) : Registry := ⟨casing, .empty⟩

/-- The name under which an integration is known. -/
def key (r : Registry) (name : String) : String := r.casing.fold (Text.trim name)

/-- Add an integration under its own name. -/
def insert (r : Registry) (i : Integration) : Registry :=
  { r with integrations := r.integrations.insert i.name i }

/-- An integration under its folded name. -/
def named (r : Registry) (i : Integration) : Integration :=
  { i with config := { i.config with name := r.key i.name } }

/-- A registry with the two integrations that every project can use. -/
def withDefaults (casing : Casing) : Registry :=
  let r := empty casing
  (r.insert (r.named .defaultInfoSchema)).insert (r.named .defaultBuiltIn)

/-- The integration that a project declares. -/
def integrationOf (r : Registry) (c : CatalogConfig) : Except ConfigurationError Integration :=
  let name := r.key c.name
  if name.isEmpty then .error .emptyCatalogName
  else (CatalogKind.parse c.catalogType).map fun kind => ⟨kind, { c with name }⟩

/-- **Register** an integration, in place of one with the same name. -/
def register (r : Registry) (c : CatalogConfig) :
    Except ConfigurationError (Registry × Integration) :=
  (r.integrationOf c).map fun i => (r.insert i, i)

/-- The registered names, in increasing order. -/
def names (r : Registry) : List String := r.integrations.keys

/-- The integration under a name. -/
def find? (r : Registry) (name : String) : Option Integration :=
  r.integrations.find? (r.key name)

/-- The integration under a name, which has to be there. -/
def lookup (r : Registry) (name : String) : Except CatalogError Integration :=
  match r.find? name with
  | some i => .ok i
  | none => .error (.notFound (r.key name) r.names)

/-- Place a model in an integration. -/
def placeIn (r : Registry) (name : String) (m : Model) : Except CatalogError Placement := do
  let i ← r.lookup name
  (i.place m).mapError .configuration

/-- Place a model in the integration it names; a model that names none is not placed. -/
def place (r : Registry) (m : Model) : Except CatalogError (Option Placement) :=
  match m.catalogName with
  | some name => (r.placeIn name m).map some
  | none => .ok none

/-! ### Laws -/

/-- After an integration is registered, it is what its name finds; the other names find what
they found before. -/
theorem find?_register {r s : Registry} {c : CatalogConfig} {i : Integration}
    (h : r.register c = .ok (s, i)) (name : String) :
    s.find? name = if r.key name = r.key c.name then some i else r.find? name := by
  rw [register] at h
  cases hi : r.integrationOf c with
  | error e => simp [hi, Except.map] at h
  | ok j =>
    simp only [hi, Except.map, Except.ok.injEq, Prod.mk.injEq] at h
    obtain ⟨rfl, rfl⟩ := h
    have hn : j.name = r.key c.name := by
      rw [integrationOf] at hi
      split at hi
      · cases hi
      · cases hk : CatalogKind.parse c.catalogType with
        | error e => simp [hk, Except.map] at hi
        | ok k =>
          simp only [hk, Except.map, Except.ok.injEq] at hi
          subst hi
          rfl
    simp only [find?, insert, Dictionary.find?_insert, hn]
    rfl

end Registry

end SchemaDrift
