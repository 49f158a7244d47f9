import SchemaDrift.Proofs.Text.Delimited
import SchemaDrift.Relation.Basic

/-!
# Names that stand for what is stored

A stored name can be searched for in several spellings. Two of them always work:

* `normalizePart_quote`: the name in quotes, whatever else is said about quoting. The name must
  not hold the quote character, for the two that are written in its place would be taken as they
  stand.
* `normalizePart_of_not_isQuoted`: where names are not meant to be quoted, any text that folds to
  the name, unless it looks quoted.

`normalizePath_quote` and `Engine.Spells.normalizePath` say this of the name of a relation.
-/

namespace SchemaDrift

/-! ### One part -/

theorem Engine.isQuoted_quote (e : Engine) (name : String) : e.isQuoted (e.quote name) = true := by
  have hlast : (e.quote name).toList.getLast? = some e.quoteChar := by
    rw [toList_quote, Text.delimited, List.getLast?_concat]
  have hlength : 2 ≤ (e.quote name).toList.length := by
    rw [toList_quote, Text.delimited, List.length_append, List.length_cons, List.length_singleton]
    omega
  have hfirst : (e.quote name).toList.head? = some e.quoteChar := by
    rw [toList_quote]
    rfl
  rw [isQuoted, hfirst, hlast]
  simpa using hlength

/-- A name without quote characters does not look quoted. -/
theorem Engine.isQuoted_of_not_mem {e : Engine} {name : String} (h : e.quoteChar ∉ name.toList) :
    e.isQuoted name = false := by
  have hfirst : name.toList.head? ≠ some e.quoteChar := fun hfirst => h (List.mem_of_head? hfirst)
  simp [isQuoted, hfirst]

/-- Without its quote characters a quoted name is the name, if none are in it. -/
theorem Engine.stripQuotes_quote {e : Engine} {name : String} (h : e.quoteChar ∉ name.toList) :
    e.stripQuotes (e.quote name) = name := by
  have hends : ∀ c ∈ name.toList, (c == e.quoteChar) = false := fun c hc =>
    beq_eq_false_iff_ne.mpr fun heq => h (heq ▸ hc)
  have hquote : (e.quoteChar == e.quoteChar) = true := beq_self_eq_true e.quoteChar
  rw [stripQuotes, toList_quote, Text.delimited, Text.doubled_of_not_mem h,
    Text.trimBoth_between (p := (· == e.quoteChar)) hquote hquote,
    Text.trimBoth_of_ends (fun c hc => hends c (List.mem_of_head? hc))
      fun c hc => hends c (List.mem_of_getLast? hc),
    String.ofList_toList]

/-- A name in quotes stands for itself, quoted or not. -/
theorem normalizePart_quote {e : Engine} {name : String} (h : e.quoteChar ∉ name.toList)
    (quoted : Bool) : normalizePart e quoted (e.quote name) = name := by
  rw [normalizePart, if_pos (e.isQuoted_quote name), Engine.stripQuotes_quote h]

/-- A text that does not look quoted, and is not meant to be, stands for what it folds to. -/
theorem normalizePart_of_not_isQuoted {e : Engine} {text : String} (h : e.isQuoted text = false) :
    normalizePart e false text = e.casing.fold text := by
  rw [normalizePart, h, if_neg Bool.false_ne_true, if_neg Bool.false_ne_true]

/-! ### The name of a relation -/

/-- The parts of a relation's name, in quotes, stand for themselves under every policy. -/
theorem normalizePath_quote {e : Engine} {r : Relation}
    (h : ∀ part ∈ r.nameParts, e.quoteChar ∉ part.1.toList) (policy : QuotePolicy) :
    normalizePath e policy (r.database.map e.quote) (r.schema.map e.quote)
        (some (e.quote r.identifier))
      = ⟨r.database, r.schema, some r.identifier⟩ := by
  obtain ⟨hdatabase, hschema, hidentifier⟩ := Relation.forall_mem_nameParts.mp h
  have hpart : ∀ (o : Option String) (quoted : Bool), (∀ s ∈ o, e.quoteChar ∉ s.toList) →
      (o.map e.quote).map (normalizePart e quoted) = o := by
    intro o quoted hplain
    have hkept : ∀ s ∈ o, (normalizePart e quoted ∘ e.quote) s = s := fun s hs =>
      normalizePart_quote (hplain s hs) quoted
    rw [Option.map_map, Option.map_congr hkept, Option.map_id']
  rw [normalizePath, hpart r.database _ hdatabase, hpart r.schema _ hschema,
    Option.map_some, normalizePart_quote hidentifier]

/-- Texts **spell** the name of a relation when they fold to its parts, and none looks quoted. -/
structure Engine.Spells (e : Engine) (r : Relation) (database schema : Option String)
    (identifier : String) : Prop where
  bare : ∀ text ∈ database.toList ++ schema.toList ++ [identifier], e.isQuoted text = false
  database : database.map e.casing.fold = r.database
  schema : schema.map e.casing.fold = r.schema
  identifier : e.casing.fold identifier = r.identifier

/-- Texts that spell the name of a relation stand for it where nothing is meant to be quoted. -/
theorem Engine.Spells.normalizePath {e : Engine} {r : Relation} {database schema : Option String}
    {identifier : String} (h : e.Spells r database schema identifier) :
    normalizePath e .none database schema (some identifier)
      = ⟨r.database, r.schema, some r.identifier⟩ := by
  have hpart : ∀ o : Option String, (∀ text ∈ o, e.isQuoted text = false) →
      o.map (normalizePart e false) = o.map e.casing.fold := fun o hbare =>
    Option.map_congr fun text htext => normalizePart_of_not_isQuoted (hbare text htext)
  have hdatabase : ∀ text ∈ database, e.isQuoted text = false := fun text htext =>
    h.bare text (by simp [Option.mem_def.mp htext])
  have hschema : ∀ text ∈ schema, e.isQuoted text = false := fun text htext =>
    h.bare text (by simp [Option.mem_def.mp htext])
  have hidentifier : ∀ text ∈ some identifier, e.isQuoted text = false := fun text htext =>
    h.bare text (by simp [Option.some.inj htext])
  rw [SchemaDrift.normalizePath, QuotePolicy.none, hpart _ hdatabase, hpart _ hschema,
    hpart _ hidentifier, h.database, h.schema, Option.map_some, h.identifier]

end SchemaDrift
