import SchemaDrift.Catalog.Integration
import SchemaDrift.Proofs.Text.Segments

/-!
# Storage locations do not overlap

The Iceberg table of a model is stored at a path on its volume: a root, the schema, the identifier
and, if there is one, a subpath. What is stored at a location is stored at every location that
covers it, so one table must not be given a location that covers that of another.

* `baseLocation_eq_ok`: a model of a schema has a location, which is this path.
* `baseLocation_covers_iff`: of two models with one root, whose schemas and identifiers have no
  slashes in them, the location of the first covers that of the second exactly when both are of
  the same schema and identifier, and the subpath of the first, if it has one, covers that of the
  second.

Nothing is asked of the subpaths, which may hold slashes and the names of other models. Slashes in
a schema or an identifier have to be excluded: the schema `a/b` with the identifier `c` is stored
where the schema `a` with the identifier `b` and the subpath `c` is.
-/

namespace SchemaDrift

namespace Model

/-- The **root** of the location of a model. -/
def locationRoot (m : Model) : String := (Integration.nonEmpty m.settings.locationRoot).getD "_dbt"

/-- The **subpath** that ends the location of a model. -/
def locationSubpath (m : Model) : Option String := Integration.nonEmpty m.settings.locationSubpath

/-- A model is **plainly located** when it has a schema, and there are no slashes in its schema and
in its identifier. -/
structure IsPlainlyLocated (m : Model) : Prop where
  schema : ∃ schema, m.schema = some schema ∧ schema ≠ "" ∧ '/' ∉ schema.toList
  identifier : '/' ∉ m.identifier.toList

end Model

namespace Integration

open Text (Covers CoversBelow)

variable {m m₁ m₂ : Model}

theorem baseLocation_eq_ok {schema : String} (h : m.schema = some schema) (hne : schema ≠ "") :
    baseLocation m = .ok ("/".intercalate
      (m.locationRoot :: schema :: m.identifier :: m.locationSubpath.toList)) := by
  have hschema : nonEmpty m.schema = some schema := by simp [nonEmpty, h, Option.filter_some, hne]
  rw [baseLocation, hschema]
  rfl

/-- **Locations do not overlap.** Of two models with one root, the location of the first covers
that of the second only if they are of the same schema and identifier. The subpaths then decide. -/
theorem baseLocation_covers_iff (hroot : m₁.locationRoot = m₂.locationRoot)
    (h₁ : m₁.IsPlainlyLocated) (h₂ : m₂.IsPlainlyLocated) :
    ∃ l₁ l₂, baseLocation m₁ = .ok l₁ ∧ baseLocation m₂ = .ok l₂
      ∧ (Covers l₁ l₂ ↔ m₁.schema = m₂.schema ∧ m₁.identifier = m₂.identifier
        ∧ ∀ s ∈ m₁.locationSubpath, ∃ t ∈ m₂.locationSubpath, Covers s t) := by
  obtain ⟨schema₁, hschema₁, hne₁, hslash₁⟩ := h₁.schema
  obtain ⟨schema₂, hschema₂, hne₂, hslash₂⟩ := h₂.schema
  refine ⟨_, _, baseLocation_eq_ok hschema₁ hne₁, baseLocation_eq_ok hschema₂ hne₂, ?_⟩
  rw [hroot, Text.covers_intercalate_cons_iff, Text.coversBelow_cons_iff hslash₁ hslash₂,
    Text.coversBelow_cons_iff h₁.identifier h₂.identifier, Text.coversBelow_toList_iff, hschema₁,
    hschema₂, Option.some.injEq]

/-- A table is not stored within that of a model whose identifier starts alike, even if its
subpath names this model, and even if one of the two spells out the root. -/
theorem baseLocation_covers_events :
    let events : Model := .ofName (some "core") "events"
    let archive : Model :=
      { Model.ofName (some "core") "events_archive" with
        settings := { locationRoot := some "_dbt", locationSubpath := some "core/events" } }
    events.locationRoot = archive.locationRoot ∧ events.IsPlainlyLocated
      ∧ archive.IsPlainlyLocated
      ∧ ∃ l₁ l₂, baseLocation events = .ok l₁ ∧ baseLocation archive = .ok l₂ ∧ ¬Covers l₁ l₂ := by
  intro events archive
  have hroot : events.locationRoot = archive.locationRoot := by decide
  have hevents : events.IsPlainlyLocated :=
    ⟨⟨"core", rfl, by decide, by decide⟩, by decide⟩
  have harchive : archive.IsPlainlyLocated :=
    ⟨⟨"core", rfl, by decide, by decide⟩, by decide⟩
  obtain ⟨l₁, l₂, hl₁, hl₂, hcovers⟩ := baseLocation_covers_iff hroot hevents harchive
  refine ⟨hroot, hevents, harchive, l₁, l₂, hl₁, hl₂, fun h => ?_⟩
  have hidentifier : events.identifier = archive.identifier := (hcovers.mp h).2.1
  exact absurd hidentifier (by decide)

end Integration

end SchemaDrift
