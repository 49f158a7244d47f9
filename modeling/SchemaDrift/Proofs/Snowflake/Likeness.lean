import SchemaDrift.Listing.DynamicTable
import SchemaDrift.Proofs.Snowflake.Target

/-!
# Patterns in statements

The metadata of a relation and the definition of a dynamic table are asked for by a pattern, in
which an underscore and a percent sign stand for other characters. Both statements have the
identifier for a pattern as it stands, wildcards included (`Snowflake.patternOf?_statement`,
`Snowflake.patternOf?_readMetadata`): what is escaped in it are apostrophes only.

A pattern without wildcards is like nothing but itself, ASCII case aside
(`Text.Like.eqIgnoringCase`), and a pattern with one is like another text, too
(`Text.exists_like_of_wildcard`).
-/

namespace SchemaDrift

/-! ### Likeness -/

namespace Text

/-- The characters that stand for others in a pattern. -/
def isWildcard (c : Char) : Bool := c = '_' || c = '%'

/-- Characters that are **like** a pattern: an underscore stands for any one character, a percent
sign for any number of them, and every other character for itself, ASCII case aside. -/
inductive Like : List Char → List Char → Prop
  | nil : Like [] []
  | same {c d : Char} {p s : List Char} : c.toLower = d.toLower → Like p s → Like (c :: p) (d :: s)
  | one {p s : List Char} (d : Char) : Like p s → Like ('_' :: p) (d :: s)
  | stop {p s : List Char} : Like p s → Like ('%' :: p) s
  | more {p s : List Char} (d : Char) : Like ('%' :: p) s → Like ('%' :: p) (d :: s)

theorem Like.refl (p : List Char) : Like p p := by
  induction p with
  | nil => exact .nil
  | cons c p ih => exact .same rfl ih

theorem Like.append_left (before : List Char) {p s : List Char} (h : Like p s) :
    Like (before ++ p) (before ++ s) := by
  induction before with
  | nil => exact h
  | cons c before ih => exact .same rfl ih

/-- Without wildcards a pattern is like nothing but itself. -/
theorem Like.map_toLower_eq {p s : List Char} (h : Like p s) (hp : ∀ c ∈ p, isWildcard c = false) :
    s.map Char.toLower = p.map Char.toLower := by
  induction h with
  | nil => rfl
  | same hcase _ ih =>
    have hrest := ih fun c hc => hp c (List.mem_cons_of_mem _ hc)
    rw [List.map_cons, List.map_cons, hcase, hrest]
  | one | stop | more => exact absurd (hp _ List.mem_cons_self) (by decide)

/-- **What is like a pattern without wildcards** is the pattern, ASCII case aside. -/
theorem Like.eqIgnoringCase {pattern name : String} (h : Like pattern.toList name.toList)
    (hpattern : ∀ c ∈ pattern.toList, isWildcard c = false) :
    Text.eqIgnoringCase name pattern = true := by
  rw [eqIgnoringCase_iff, asciiLower, asciiLower, h.map_toLower_eq hpattern]

/-- A pattern with a wildcard is like another text, too. -/
theorem exists_like_of_wildcard {p : List Char} {c : Char} (hc : c ∈ p)
    (hwildcard : isWildcard c = true) :
    ∃ s, Like p s ∧ s ≠ [] ∧ s.map Char.toLower ≠ p.map Char.toLower := by
  obtain ⟨before, behind, rfl⟩ := List.append_of_mem hc
  -- an `x` can stand where the wildcard does
  refine ⟨before ++ 'x' :: behind, .append_left before ?_, by simp, fun hsame => ?_⟩
  · rcases (Bool.or_eq_true _ _).mp hwildcard with hone | hmany
    · rw [of_decide_eq_true hone]
      exact .one 'x' (.refl behind)
    · rw [of_decide_eq_true hmany]
      exact .more 'x' (.stop (.refl behind))
  · rw [List.map_append, List.map_append, List.map_cons, List.map_cons] at hsame
    have hx : 'x'.toLower = c.toLower := (List.cons.inj (List.append_cancel_left hsame)).1
    rcases (Bool.or_eq_true _ _).mp hwildcard with hone | hmany
    · rw [of_decide_eq_true hone] at hx
      exact absurd hx (by decide)
    · rw [of_decide_eq_true hmany] at hx
      exact absurd hx (by decide)

end Text

/-! ### The pattern of a statement -/

namespace Text.Scan

theorem orElse_apply {α : Type} (p q : Scan α) (cs : List Char) :
    (p <|> q) cs = (p cs <|> q cs) := rfl

/-- A character is not taken where another one stands. -/
theorem char_cons_of_ne {c d : Char} (h : d ≠ c) (cs : List Char) : char c (d :: cs) = none := by
  have hsatisfy : satisfy (· == c) (d :: cs) = none :=
    if_neg (Bool.eq_false_iff.mp (beq_eq_false_iff_ne.mpr h))
  rw [char, bind_apply, hsatisfy, Option.bind_none]

/-- Nor are several characters where another one stands for one of them. -/
theorem literal_eq_none {expected : String} (shared : List Char) {more : List Char} {c d : Char}
    (hexpected : expected.toList = shared ++ c :: more) (h : d ≠ c) (rest : List Char) :
    literal expected (shared ++ d :: rest) = none := by
  have hfirst : ∀ (e : Char) (es : List Char),
      (e :: es).forM char = char e >>= fun _ => es.forM char := fun _ _ => rfl
  rw [literal, hexpected]
  clear hexpected
  induction shared with
  | nil =>
    rw [List.nil_append, List.nil_append, hfirst, bind_apply, char_cons_of_ne h, Option.bind_none]
  | cons e shared ih =>
    rw [List.cons_append, List.cons_append, hfirst, bind_apply, char_cons_self]
    exact ih

end Text.Scan

namespace Snowflake

open Text

/-- The words of a statement that asks for dynamic tables. -/
def dynamicTables : Scan Unit := Scan.literal "show dynamic tables"

/-- A schema that objects are asked for in. -/
def inSchema : Scan Unit := do
  Scan.literal " in schema "
  let _ ← Lookup.name '"'
  let _ ← Scan.option (Scan.char '.' >>= fun _ => Lookup.name '"')

/-- The words of a statement that asks for objects, in a schema or in any. -/
def objects : Scan Unit := do
  Scan.literal "show objects"
  let _ ← Scan.option inSchema

/-- The pattern in a statement. What follows the pattern is left. -/
def pattern : Scan String := do
  dynamicTables <|> objects
  Scan.literal " like "
  Lookup.name '\''

/-- The **pattern** in the text of a statement that asks for what is like one. -/
def patternOf? (sql : String) : Option String := (pattern sql.toList).map Prod.fst

/-- The pattern stands between apostrophes behind the words of a statement. -/
theorem pattern_append {words rest : List Char}
    (hwords : ∀ cs, (dynamicTables <|> objects) (words ++ (" like ".toList ++ cs))
      = some ((), " like ".toList ++ cs))
    (hrest : rest.head? ≠ some '\'') (s : String) :
    pattern (words ++ (" like ".toList ++ ((textLiteral s).toList ++ rest))) = some (s, rest) := by
  rw [pattern, Scan.bind_apply, hwords, Option.bind_some, Scan.literal_bind, toList_textLiteral,
    Lookup.name_delimited hrest]

theorem pattern_dynamicTables {rest : List Char} (hrest : rest.head? ≠ some '\'') (s : String) :
    pattern ("show dynamic tables".toList ++ (" like ".toList ++ ((textLiteral s).toList ++ rest)))
      = some (s, rest) := by
  refine pattern_append (fun cs => ?_) hrest s
  rw [Scan.orElse_apply, dynamicTables, Scan.literal_append]
  rfl

/-- A statement that asks for objects asks for no dynamic tables. -/
theorem words_objects (cs : List Char) :
    (dynamicTables <|> objects) ("show objects".toList ++ cs)
      = (Scan.option inSchema cs).map fun r => ((), r.2) := by
  have hother : dynamicTables ("show objects".toList ++ cs) = none :=
    Scan.literal_eq_none "show ".toList (c := 'd') (d := 'o') rfl (by decide) _
  rw [Scan.orElse_apply, hother, objects, Scan.literal_bind, Scan.bind_apply]
  cases Scan.option inSchema cs <;> rfl

/-- The schema that objects are asked for in stands before a blank. -/
theorem inSchema_schemaName (s : SchemaRef) (rest : List Char) :
    inSchema (" in schema ".toList ++ ((schemaName s).toList ++ ' ' :: rest))
      = some ((), ' ' :: rest) := by
  obtain ⟨database, schema⟩ := s
  rw [schemaName_eq, Engine.toList_intercalate_quote, inSchema, Scan.literal_bind,
    Scan.bind_apply]
  cases database with
  | none =>
    have hlast : Scan.option (Scan.char '.' >>= fun _ => Lookup.name '"') (' ' :: rest)
        = some (none, ' ' :: rest) := by
      rw [Scan.option, Scan.bind_apply, Scan.char_cons_of_ne (by decide), Option.bind_none]
    have htext : Text.dotted engine.quoteChar (((none : Option String).toList ++ [schema]).map
        String.toList) = Text.delimited '"' schema.toList := Text.dotted_singleton '"' _
    rw [htext, Lookup.name_delimited (by simp), Option.bind_some, Scan.bind_apply, hlast]
    rfl
  | some database =>
    have hlast : Scan.option (Scan.char '.' >>= fun _ => Lookup.name '"')
        ('.' :: (Text.delimited '"' schema.toList ++ ' ' :: rest))
        = some (some schema, ' ' :: rest) := by
      rw [Scan.option, Scan.bind_apply, Scan.char_cons_self, Option.bind_some,
        Lookup.name_delimited (by simp)]
    have htext : Text.dotted engine.quoteChar (((some database).toList ++ [schema]).map
        String.toList) = Text.delimited '"' database.toList ++ '.'
          :: Text.delimited '"' schema.toList := by
      have htwo := Text.dotted_cons_cons '"' database.toList schema.toList []
      rw [Text.dotted_singleton] at htwo
      exact htwo
    rw [htext, List.append_assoc, List.cons_append, Lookup.name_delimited (by simp),
      Option.bind_some, Scan.bind_apply, hlast]
    rfl

/-- A pattern is not taken for a schema. -/
theorem option_inSchema_like (cs : List Char) :
    Scan.option inSchema (" like ".toList ++ cs) = some (none, " like ".toList ++ cs) := by
  have hliteral : Scan.literal " in schema " (" like ".toList ++ cs) = none :=
    Scan.literal_eq_none [' '] (c := 'i') (d := 'l') rfl (by decide) _
  rw [Scan.option, inSchema, Scan.bind_apply, hliteral, Option.bind_none]

theorem option_inSchema_schemaName (s : SchemaRef) (cs : List Char) :
    Scan.option inSchema
        ((" in schema ".toList ++ (schemaName s).toList) ++ (" like ".toList ++ cs))
      = some (some (), " like ".toList ++ cs) := by
  have hblank : " like ".toList ++ cs = ' ' :: ("like ".toList ++ cs) := rfl
  rw [List.append_assoc, Scan.option, hblank, inSchema_schemaName]

theorem pattern_objects {scope rest : List Char} {found : Option Unit}
    (hscope : ∀ cs, Scan.option inSchema (scope ++ (" like ".toList ++ cs))
      = some (found, " like ".toList ++ cs))
    (hrest : rest.head? ≠ some '\'') (s : String) :
    pattern (("show objects".toList ++ scope)
      ++ (" like ".toList ++ ((textLiteral s).toList ++ rest))) = some (s, rest) := by
  refine pattern_append (fun cs => ?_) hrest s
  rw [List.append_assoc, words_objects, hscope]
  rfl

/-- **The pattern of the metadata** is the identifier as it stands. -/
theorem patternOf?_readMetadata (r : Relation) :
    patternOf? (readMetadata r) = some r.identifier := by
  cases hschema : r.schema with
  | none =>
    have htext : (readMetadata r).toList = ("show objects".toList ++ [])
        ++ (" like ".toList ++ ((textLiteral r.identifier).toList ++ [])) := by
      unfold readMetadata Relation.schemaRef?
      simp only [hschema, Option.map_none, String.toList_append, List.append_assoc, List.append_nil]
    rw [patternOf?, htext, pattern_objects option_inSchema_like (by simp)]
    rfl
  | some schema =>
    have hwords : "show objects in schema ".toList
        = "show objects".toList ++ " in schema ".toList := by
      rw [← String.toList_append]
      rfl
    have htext : (readMetadata r).toList = ("show objects".toList
        ++ (" in schema ".toList ++ (schemaName ⟨r.database, schema⟩).toList))
        ++ (" like ".toList ++ ((textLiteral r.identifier).toList ++ [])) := by
      rw [toList_readMetadata hschema, hwords]
      simp only [List.append_assoc, List.append_nil]
    rw [patternOf?, htext, pattern_objects (option_inSchema_schemaName _) (by simp)]
    rfl

/-- **The pattern of a dynamic table** is the identifier as it stands. -/
theorem patternOf?_statement {r : Relation} {sql : String}
    (h : Listing.DynamicTable.statement r = .ok sql) : patternOf? sql = some r.identifier := by
  rw [Listing.DynamicTable.statement] at h
  split at h
  · cases h
  · obtain rfl := Except.ok.inj h
    have hwords : "show dynamic tables like ".toList
        = "show dynamic tables".toList ++ " like ".toList := by
      rw [← String.toList_append]
      rfl
    rw [patternOf?, String.toList_append, String.toList_append, String.toList_append, hwords]
    simp only [List.append_assoc]
    rw [pattern_dynamicTables (by simp)]
    rfl

end Snowflake

end SchemaDrift
