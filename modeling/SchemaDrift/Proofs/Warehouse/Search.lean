import SchemaDrift.Proofs.Identifier.Normalization
import SchemaDrift.Proofs.Warehouse.Listings

/-!
# An added relation is found by its names

A search goes three steps: the name that is searched for is normalized, the listing of its schema
is read, and the first relation in it that the name fits is taken. Neither of the last two is
exact. The listing is found by a text that different schemas share, and a search without a
database fits relations of every database. Together they are:

* `SchemaRef.eq_of_display_eq`: schemas of one name that are written alike are the same.
* `Session.findRelation_of_lists`: so a search takes the first relation that has all the names.
* `Session.findRelation_addAll`: a relation is found by its names in quotes, and where a project
  quotes nothing by every spelling that folds to them.
-/

namespace SchemaDrift

/-! ### Names that are shared -/

namespace SchemaRef

theorem display_some (database schema : String) :
    display ⟨some database, schema⟩ = database ++ "." ++ schema := rfl

theorem display_some_ne_display_none (database schema : String) :
    display ⟨some database, schema⟩ ≠ display ⟨none, schema⟩ := by
  intro h
  have hlength : database.length + ".".length + schema.length = schema.length := by
    rw [← String.length_append, ← String.length_append, ← display_some, h, display]
  have hdot : ".".length = 1 := rfl
  omega

/-- The dotted name tells the database of a schema whose own name is known. -/
theorem eq_of_display_eq {s t : SchemaRef} (hschema : s.schema = t.schema)
    (h : s.display = t.display) : s = t := by
  obtain ⟨database, schema⟩ := s
  obtain ⟨database', schema'⟩ := t
  obtain rfl : schema = schema' := hschema
  cases database <;> cases database'
  case none.none => rfl
  case none.some d' => exact absurd h.symm (display_some_ne_display_none d' schema)
  case some.none d => exact absurd h (display_some_ne_display_none d schema)
  case some.some d d' =>
    rw [display_some, display_some, String.append_left_inj, String.append_left_inj] at h
    rw [h]

end SchemaRef

namespace Relation

/-- A relation **has the name of** another when all parts of their names are the same. -/
def HasNameOf (r other : Relation) : Prop :=
  r.database = other.database ∧ r.schema = other.schema ∧ r.identifier = other.identifier

instance (r other : Relation) : Decidable (r.HasNameOf other) :=
  inferInstanceAs (Decidable (_ ∧ _))

theorem isListedUnder_iff {r : Relation} {name : String} :
    r.isListedUnder name = true ↔ ∃ s, r.schemaRef? = some s ∧ s.display = name := by
  rw [isListedUnder, decide_eq_true_iff, Option.map_eq_some_iff]

/-- A relation is listed where another is searched for, and fits the search, exactly when it has
the name of the other. -/
theorem isListedUnder_and_isNamedBy_iff {r other : Relation} {schema : String}
    (hschema : other.schema = some schema) :
    (r.isListedUnder (SchemaRef.display ⟨other.database, schema⟩) = true
        ∧ r.isNamedBy ⟨other.database, some schema, some other.identifier⟩ = true)
      ↔ r.HasNameOf other := by
  rw [isListedUnder_iff, isNamedBy_iff, HasNameOf, hschema]
  constructor
  · -- the search itself does not tell the database, if it names none: the listing does
    rintro ⟨⟨s, hs, hdisplay⟩, -, hsame, hidentifier⟩
    have hr : r.schema = some schema := hsame schema rfl
    have hlies : s = ⟨r.database, schema⟩ := by
      rw [schemaRef?, hr] at hs
      exact (Option.some.inj hs).symm
    have hname : s.schema = schema := congrArg SchemaRef.schema hlies
    have heq : s = ⟨other.database, schema⟩ := SchemaRef.eq_of_display_eq hname hdisplay
    exact ⟨congrArg SchemaRef.database (hlies.symm.trans heq), hr, hidentifier _ rfl⟩
  · rintro ⟨hdatabase, hsame, hidentifier⟩
    have hlies : r.schemaRef? = some ⟨other.database, schema⟩ := by
      rw [schemaRef?, hsame, hdatabase]
      rfl
    exact ⟨⟨_, hlies, rfl⟩, fun d hd => hdatabase.trans hd, fun s hs => hsame.trans hs,
      fun i hi => hidentifier.trans (Option.some.inj hi)⟩

end Relation

/-! ### Searching a warehouse -/

namespace Session

variable {s : Session} {w : Warehouse} {rs : List Relation}

/-- A search for the stored name of a relation takes the first relation that has this name. -/
theorem findRelation_of_lists (h : w.Lists rs) (hcreated : ∀ r ∈ rs, r.IsCreated) {r : Relation}
    {database : Option String} {schema identifier stored : String}
    (hstored : r.schema = some stored)
    (hsearch : s.search database (some schema) (some identifier)
      = ⟨r.database, r.schema, some r.identifier⟩) :
    s.findRelation w database schema identifier
      = .ok ((rs.find? (·.HasNameOf r)).map Relation.fullyQuoted) := by
  have hfind : ((rs.filter (·.isListedUnder (SchemaRef.display ⟨r.database, stored⟩))).map
        Relation.fullyQuoted).find? (·.isNamedBy ⟨r.database, some stored, some r.identifier⟩)
      = (rs.find? (·.HasNameOf r)).map Relation.fullyQuoted := by
    rw [List.find?_map, List.find?_filter]
    congr 2
    funext r'
    exact decide_eq_decide.mpr (Relation.isListedUnder_and_isNamedBy_iff hstored)
  rw [findRelation, hsearch, hstored, ← hfind]
  simp only [Option.getD_some]
  rw [listRelations_of_lists h hcreated]
  rfl

theorem exists_find?_hasNameOf {r : Relation} (hr : r ∈ rs) :
    ∃ first, rs.find? (·.HasNameOf r) = some first := by
  rw [← Option.isSome_iff_exists, List.find?_isSome]
  exact ⟨r, hr, decide_eq_true ⟨rfl, rfl, rfl⟩⟩

/-- **An added relation is found by its names.** Whatever else was added to a warehouse, a search
for the names of a relation, each in quotes, finds the first that was added with these names. So
does every spelling that folds to them in a session that quotes nothing. -/
theorem findRelation_addAll (s : Session) (engine : Engine) (name : String) (isUnreachable : Bool)
    (added : List (Relation × List Column)) (hcreated : ∀ a ∈ added, a.1.IsCreated)
    (r : Relation) (hr : r ∈ added.map (·.1)) (stored : String) (hstored : r.schema = some stored)
    (hplain : ∀ part ∈ r.nameParts, s.engine.quoteChar ∉ part.1.toList) :
    let w := (Warehouse.fresh engine name isUnreachable).addAll added
    ∃ first, (added.map (·.1)).find? (·.HasNameOf r) = some first
      ∧ s.findRelation w (r.database.map s.engine.quote) (s.engine.quote stored)
          (s.engine.quote r.identifier) = .ok (some first.fullyQuoted)
      ∧ (s.quoting = .none → ∀ database schema identifier,
          s.engine.Spells r database (some schema) identifier →
          s.findRelation w database schema identifier = .ok (some first.fullyQuoted)) := by
  intro w
  have hlists : w.Lists (added.map (·.1)) :=
    Warehouse.lists_addAll_fresh engine name isUnreachable added
  have hall : ∀ r ∈ added.map (·.1), r.IsCreated := List.forall_mem_map.mpr hcreated
  obtain ⟨first, hfirst⟩ := exists_find?_hasNameOf hr
  refine ⟨first, hfirst, ?_, fun hquoting database schema identifier hspells => ?_⟩
  · have hsearch : s.search (r.database.map s.engine.quote) (some (s.engine.quote stored))
        (some (s.engine.quote r.identifier)) = ⟨r.database, r.schema, some r.identifier⟩ := by
      have hnames := normalizePath_quote hplain s.quoting
      rwa [hstored, Option.map_some, ← hstored] at hnames
    rw [findRelation_of_lists hlists hall hstored hsearch, hfirst, Option.map_some]
  · have hsearch : s.search database (some schema) (some identifier)
        = ⟨r.database, r.schema, some r.identifier⟩ := by
      rw [search, hquoting, hspells.normalizePath]
    rw [findRelation_of_lists hlists hall hstored hsearch, hfirst, Option.map_some]

/-- A relation is told from one in a schema that is written alike, but not from one that was added
under its own name before. -/
theorem findRelation_addAll_alike :
    let wanted : Relation := { database := none, schema := some "A.B", identifier := "X" }
    let before := { wanted with kind := .dynamicTable, format := .iceberg, quoting := .none }
    let alike := { wanted with database := some "A", schema := some "B" }
    let added := [(alike, []), (before, []), (wanted, [])]
    let w := (Warehouse.fresh Dialect.snowflake.engine "memory" false).addAll added
    let s : Session := ⟨Dialect.snowflake.engine, .none, .empty .upper⟩
    (∀ a ∈ added, a.1.IsCreated)
      ∧ s.findRelation w none (s.engine.quote "A.B") (s.engine.quote "X")
        = .ok (some before.fullyQuoted)
      ∧ s.findRelation w none "a.b" "x" = .ok (some before.fullyQuoted) := by
  intro wanted before alike added w s
  have hcreated : ∀ a ∈ added, a.1.IsCreated := by decide +kernel
  have hfind : (added.map (·.1)).find? (·.HasNameOf wanted) = some before := by decide +kernel
  have hplain : ∀ part ∈ wanted.nameParts, s.engine.quoteChar ∉ part.1.toList := by decide +kernel
  have hspells : s.engine.Spells wanted none (some "a.b") "x" :=
    ⟨by decide +kernel, rfl, by decide +kernel, by decide +kernel⟩
  obtain ⟨first, hfirst, hquoted, hspelled⟩ := findRelation_addAll s Dialect.snowflake.engine
    "memory" false added hcreated wanted (by decide +kernel) "A.B" rfl hplain
  obtain rfl : before = first := Option.some.inj (hfind.symm.trans hfirst)
  exact ⟨hcreated, hquoted, hspelled rfl none "a.b" "x" hspells⟩

end Session

end SchemaDrift
