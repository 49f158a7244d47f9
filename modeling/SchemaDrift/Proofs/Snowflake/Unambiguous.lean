import SchemaDrift.Proofs.Identifier.Reading
import SchemaDrift.Snowflake.Statement

/-!
# Statements say what they were made from

The statements for Snowflake are put together from names that may hold anything: quotes,
apostrophes, dots, blanks and keywords. None of this can make a statement read as one for other
names: a statement has the same text as another only if it was made from the same names
(`statements_unambiguous`).

Each statement is taken apart from the left. Its fixed words are the same as those of the other,
and a name ends where its delimiter stands alone, so that what stands behind it in both texts is
compared next (`schemaName_append_inj`, `view_append_inj`, `textLiteral_append_inj`). The last
part of a statement that alters a relation has no delimiter: the name of a column may be bare, and
the type is any text at all. There the name ends at the blank before the type (`clause_inj`).

Two things are not in the texts. The columns of a relation without a schema are looked for under
the empty name, which would do for a relation in a schema of that name too; but such a relation is
never created. And a statement that alters `a.b` does not say whether `a` is a schema or a
database.
-/

namespace SchemaDrift

namespace Relation

/-- The parts of the name that are there, from the outermost in. -/
def presentParts (r : Relation) : List String :=
  r.database.toList ++ r.schema.toList ++ [r.identifier]

theorem presentParts_ne_nil (r : Relation) : r.presentParts ≠ [] :=
  List.append_ne_nil_of_right_ne_nil _ (List.cons_ne_nil _ _)

theorem render_of_all (e : Engine) {r : Relation} (h : r.quoting = .all) :
    r.render e = ".".intercalate (r.presentParts.map e.quote) := by
  have hparts : r.nameParts.map (fun part => if part.2 then e.quote part.1 else part.1)
      = r.presentParts.map e.quote := by
    rw [nameParts, presentParts, h]
    cases r.database <;> cases r.schema <;> rfl
  rw [render, hparts]

end Relation

namespace Snowflake

variable {rest rest' : List Char}

/-! ### Schemas and views -/

/-- An optional name and a further one can be told from the list of both. -/
private theorem toList_append_singleton_inj {o o' : Option String} {a a' : String}
    (h : o.toList ++ [a] = o'.toList ++ [a']) : o = o' ∧ a = a' := by
  obtain ⟨ho, ha⟩ := List.append_singleton_inj.mp h
  refine ⟨?_, ha⟩
  cases o <;> cases o' <;> simp_all

/-- The empty name can stand for an absent one where no name is empty. -/
private theorem getD_empty_inj {o o' : Option String} (ho : o ≠ some "") (ho' : o' ≠ some "")
    (h : o.getD "" = o'.getD "") : o = o' := by
  cases o with
  | none =>
    cases o' with
    | none => rfl
    | some s' => exact absurd (congrArg some h.symm) ho'
  | some s =>
    cases o' with
    | none => exact absurd (congrArg some h) ho
    | some s' => exact congrArg some h

theorem schemaName_eq (s : SchemaRef) :
    schemaName s = ".".intercalate ((s.database.toList ++ [s.schema]).map engine.quote) := by
  cases hdatabase : s.database <;> simp [schemaName, hdatabase]

/-- The name of a schema can be told from what follows it. -/
theorem schemaName_append_inj {s s' : SchemaRef}
    (hrest : rest.head? ≠ some '"' ∧ rest.head? ≠ some '.')
    (hrest' : rest'.head? ≠ some '"' ∧ rest'.head? ≠ some '.')
    (h : (schemaName s).toList ++ rest = (schemaName s').toList ++ rest') :
    s = s' ∧ rest = rest' := by
  rw [schemaName_eq, schemaName_eq] at h
  obtain ⟨hnames, hrests⟩ := Engine.intercalate_quote_append_inj (by decide)
    (List.append_ne_nil_of_right_ne_nil _ (List.cons_ne_nil _ _))
    (List.append_ne_nil_of_right_ne_nil _ (List.cons_ne_nil _ _)) hrest hrest' h
  obtain ⟨hdatabase, hschema⟩ := toList_append_singleton_inj hnames
  refine ⟨?_, hrests⟩
  cases s
  cases s'
  rw [SchemaRef.mk.injEq]
  exact ⟨hdatabase, hschema⟩

/-- The view that lists the columns of a database. -/
def view (database : Option String) : String :=
  ".".intercalate ((database.map engine.quote).toList ++ ["INFORMATION_SCHEMA.COLUMNS"])

theorem toList_view_none : (view none).toList = "INFORMATION_SCHEMA.COLUMNS".toList := by
  simp [view]

theorem toList_view_some (database : String) :
    (view (some database)).toList
      = Text.delimited '"' database.toList ++ ".INFORMATION_SCHEMA.COLUMNS".toList := by
  rw [view, String.toList_intercalate, Option.map_some, Option.toList_some, List.singleton_append,
    List.map_cons, List.map_cons, List.map_nil, List.intercalate_cons_cons,
    List.intercalate_singleton, Engine.toList_quote, List.append_assoc]
  rfl

/-- The view of a database can be told from what follows it. -/
theorem view_append_inj {database database' : Option String}
    (h : (view database).toList ++ rest = (view database').toList ++ rest') :
    database = database' ∧ rest = rest' := by
  cases database with
  | none =>
    rw [toList_view_none] at h
    cases database' with
    | none =>
      rw [toList_view_none] at h
      exact ⟨rfl, List.append_cancel_left h⟩
    | some name' =>
      rw [toList_view_some] at h
      exact absurd (congrArg List.head? h) (by simp [Text.delimited])
  | some name =>
    rw [toList_view_some] at h
    cases database' with
    | none =>
      rw [toList_view_none] at h
      exact absurd (congrArg List.head? h) (by simp [Text.delimited])
    | some name' =>
      rw [toList_view_some, List.append_assoc, List.append_assoc] at h
      obtain ⟨hname, hrests⟩ := Text.delimited_append_inj (by simp) (by simp) h
      exact ⟨congrArg some (String.toList_inj.mp hname), List.append_cancel_left hrests⟩

/-- A text literal can be told from what follows it. -/
theorem textLiteral_append_inj {s s' : String} (hrest : rest.head? ≠ some '\'')
    (hrest' : rest'.head? ≠ some '\'')
    (h : (textLiteral s).toList ++ rest = (textLiteral s').toList ++ rest') :
    s = s' ∧ rest = rest' := by
  rw [toList_textLiteral, toList_textLiteral] at h
  obtain ⟨hs, hrests⟩ := Text.delimited_append_inj hrest hrest' h
  exact ⟨String.toList_inj.mp hs, hrests⟩

/-! ### Statements that look -/

theorem toList_listObjects (s : SchemaRef) :
    (listObjects s).toList = "show objects in schema ".toList ++ (schemaName s).toList :=
  String.toList_append

theorem toList_readColumns (r : Relation) :
    (readColumns r).toList
      = "select column_name, data_type, ordinal_position from ".toList
        ++ ((view r.database).toList ++ (" where table_schema = ".toList
        ++ ((textLiteral (r.schema.getD "")).toList ++ (" and table_name = ".toList
        ++ ((textLiteral r.identifier).toList ++ " order by ordinal_position".toList))))) := by
  unfold readColumns view
  simp only [String.toList_append, List.append_assoc]

theorem toList_readMetadata {r : Relation} {schema : String} (h : r.schema = some schema) :
    (readMetadata r).toList
      = "show objects in schema ".toList ++ ((schemaName ⟨r.database, schema⟩).toList
        ++ (" like ".toList ++ (textLiteral r.identifier).toList)) := by
  have hschema : r.schemaRef? = some ⟨r.database, schema⟩ := by
    rw [Relation.schemaRef?, h, Option.map_some]
  unfold readMetadata
  simp only [hschema, toList_listObjects, String.toList_append, List.append_assoc]

theorem listObjects_injective : Function.Injective listObjects := by
  intro s s' h
  have htext : (schemaName s).toList ++ [] = (schemaName s').toList ++ [] := by
    rw [← String.toList_inj, toList_listObjects, toList_listObjects] at h
    rw [List.append_nil, List.append_nil, List.append_cancel_left h]
  exact (schemaName_append_inj (by simp) (by simp) htext).1

theorem readColumns_inj {r r' : Relation} (h : readColumns r = readColumns r') :
    r.database = r'.database ∧ r.schema.getD "" = r'.schema.getD ""
      ∧ r.identifier = r'.identifier := by
  rw [← String.toList_inj, toList_readColumns, toList_readColumns] at h
  obtain ⟨hdatabase, htable⟩ := view_append_inj (List.append_cancel_left h)
  obtain ⟨hschema, hname⟩ := textLiteral_append_inj (by simp) (by simp)
    (List.append_cancel_left htable)
  obtain ⟨hidentifier, -⟩ := textLiteral_append_inj (by simp) (by simp)
    (List.append_cancel_left hname)
  exact ⟨hdatabase, hschema, hidentifier⟩

theorem readMetadata_inj {r r' : Relation} (hschema : r.schema.isSome)
    (hschema' : r'.schema.isSome) (h : readMetadata r = readMetadata r') :
    r.database = r'.database ∧ r.schema = r'.schema ∧ r.identifier = r'.identifier := by
  obtain ⟨schema, hr⟩ := Option.isSome_iff_exists.mp hschema
  obtain ⟨schema', hr'⟩ := Option.isSome_iff_exists.mp hschema'
  rw [← String.toList_inj, toList_readMetadata hr, toList_readMetadata hr'] at h
  obtain ⟨hsame, hname⟩ := schemaName_append_inj (by simp) (by simp) (List.append_cancel_left h)
  obtain ⟨hdatabase, rfl⟩ := SchemaRef.mk.inj hsame
  have hliteral : (textLiteral r.identifier).toList ++ []
      = (textLiteral r'.identifier).toList ++ [] := by
    rw [List.append_nil, List.append_nil, List.append_cancel_left hname]
  obtain ⟨hidentifier, -⟩ := textLiteral_append_inj (by simp) (by simp) hliteral
  exact ⟨hdatabase, hr.trans hr'.symm, hidentifier⟩

/-! ### Statements that alter -/

/-- What a statement that alters a relation says behind the name of the relation. -/
def clause : Operation → List Char
  | .add c => " add column ".toList
      ++ ((engine.quoteIfNeeded c.name).toList ++ ' ' :: c.dataType.toList)
  | .drop c => " drop column ".toList ++ (engine.quoteIfNeeded c.name).toList

theorem toList_alter (r : Relation) (op : Operation) :
    (alter r op).toList = "alter table ".toList ++ ((r.render engine).toList ++ clause op) := by
  unfold alter
  cases op with
  | add c | drop c =>
    simp only [String.toList_append, List.append_assoc]
    rfl

theorem head?_clause (op : Operation) : (clause op).head? = some ' ' := by
  cases op <;> rfl

/-- Operations with the same clause do the same to a column of the same name; an addition has
the type in its clause too. -/
theorem clause_inj {op op' : Operation} (h : clause op = clause op') :
    op.intent = op'.intent ∧ op.column.name = op'.column.name
      ∧ ∀ c, op = .add c → c.dataType = op'.column.dataType := by
  have hquote : ¬InBareName engine.quoteChar := Dialect.snowflake.not_inBareName_quoteChar
  have hblank : ∀ (cs : List Char) (c : Char), (' ' :: cs).head? = some c →
      ¬InBareName c ∧ c ≠ engine.quoteChar := by
    rintro cs c ⟨⟩
    decide
  have hend : ∀ c : Char, ([] : List Char).head? = some c →
      ¬InBareName c ∧ c ≠ engine.quoteChar := by
    rintro c ⟨⟩
  -- the fixed words of the two kinds of clause differ in their second character
  have hkinds : ∀ c c' : Column, clause (.add c) ≠ clause (.drop c') := fun c c' hsame => by
    have hsecond : some 'a' = some 'd' := congrArg (·[1]?) hsame
    exact absurd hsecond (by decide)
  cases op with
  | add c =>
    cases op' with
    | add c' =>
      obtain ⟨hname, htype⟩ := Engine.quoteIfNeeded_append_inj hquote (hblank _) (hblank _)
        (List.append_cancel_left h)
      refine ⟨rfl, hname, ?_⟩
      rintro _ ⟨⟩
      exact String.toList_inj.mp (List.cons.inj htype).2
    | drop c' => exact absurd h (hkinds c c')
  | drop c =>
    cases op' with
    | add c' => exact absurd h.symm (hkinds c' c)
    | drop c' =>
      have hwritten : (engine.quoteIfNeeded c.name).toList ++ []
          = (engine.quoteIfNeeded c'.name).toList ++ [] := by
        rw [List.append_nil, List.append_nil, List.append_cancel_left h]
      obtain ⟨hname, -⟩ := Engine.quoteIfNeeded_append_inj hquote hend hend hwritten
      refine ⟨rfl, hname, ?_⟩
      rintro _ ⟨⟩

theorem alter_inj {r r' : Relation} {op op' : Operation} (hquoting : r.quoting = .all)
    (hquoting' : r'.quoting = .all) (h : alter r op = alter r' op') :
    r.presentParts = r'.presentParts ∧ clause op = clause op' := by
  have hhead : ∀ op, (clause op).head? ≠ some engine.quoteChar ∧ (clause op).head? ≠ some '.' := by
    intro op
    rw [head?_clause]
    decide
  rw [← String.toList_inj, toList_alter, toList_alter, Relation.render_of_all engine hquoting,
    Relation.render_of_all engine hquoting'] at h
  exact Engine.intercalate_quote_append_inj (by decide) r.presentParts_ne_nil
    r'.presentParts_ne_nil (hhead op) (hhead op') (List.append_cancel_left h)

/-! ### All statements -/

/-- **No name breaks out of a statement.** Statements with the same text were made from the same
names, whatever characters these are made of: schemas listed, relations whose columns or metadata
are read, and relations altered, with what is done to which column. -/
theorem statements_unambiguous :
    (∀ s s' : SchemaRef, listObjects s = listObjects s' → s = s')
    ∧ (∀ r r' : Relation, r.IsCreated → r'.IsCreated → readColumns r = readColumns r' →
        r.database = r'.database ∧ r.schema = r'.schema ∧ r.identifier = r'.identifier)
    ∧ (∀ r r' : Relation, r.IsCreated → r'.IsCreated → r.schema.isSome → r'.schema.isSome →
        readMetadata r = readMetadata r' →
        r.database = r'.database ∧ r.schema = r'.schema ∧ r.identifier = r'.identifier)
    ∧ ∀ (r r' : Relation) (op op' : Operation), r.quoting = .all → r'.quoting = .all →
        alter r op = alter r' op' →
        r.presentParts = r'.presentParts ∧ op.intent = op'.intent
          ∧ op.column.name = op'.column.name
          ∧ ∀ c, op = .add c → c.dataType = op'.column.dataType := by
  refine ⟨fun s s' h => listObjects_injective h, ?_, ?_, ?_⟩
  · intro r r' hr hr' h
    obtain ⟨hdatabase, hschema, hidentifier⟩ := readColumns_inj h
    refine ⟨hdatabase, ?_, hidentifier⟩
    exact getD_empty_inj (Relation.isCreated_iff.mp hr).2.1 (Relation.isCreated_iff.mp hr').2.1
      hschema
  · intro r r' _ _ hschema hschema' h
    exact readMetadata_inj hschema hschema' h
  · intro r r' op op' hquoting hquoting' h
    obtain ⟨hparts, hclause⟩ := alter_inj hquoting hquoting' h
    exact ⟨hparts, clause_inj hclause⟩

/-- A relation in a schema whose name holds quotation marks and a dot. -/
def clockInSchema : Relation :=
  { database := none, schema := some "a\".\"b", identifier := "o'clock" }

/-- A relation with the same names, known as a view and without quotes. -/
def clockView : Relation := { clockInSchema with kind := .view, quoting := .none }

/-- A relation in a database of that name, without a schema. -/
def clockInDatabase : Relation :=
  { database := some "a\".\"b", schema := none, identifier := "o'clock" }

theorem statements_unambiguous_clock :
    (clockInSchema.IsCreated ∧ clockView.IsCreated
      ∧ readColumns clockInSchema = readColumns clockView
      ∧ readMetadata clockInSchema = readMetadata clockView
      ∧ clockInSchema.schema = clockView.schema
      ∧ clockInSchema.identifier = clockView.identifier)
    ∧ alter clockInSchema (.drop ⟨"say \"hi\"", "TEXT", 1⟩)
        = alter clockInDatabase (.drop ⟨"say \"hi\"", "NUMBER", 2⟩)
    ∧ clockInSchema.presentParts = clockInDatabase.presentParts := by
  have hcreated : clockInSchema.IsCreated := Relation.isCreated_iff.mpr (by decide +kernel)
  have hview : clockView.IsCreated := Relation.isCreated_iff.mpr (by decide +kernel)
  have hsame : alter clockInSchema (.drop ⟨"say \"hi\"", "TEXT", 1⟩)
      = alter clockInDatabase (.drop ⟨"say \"hi\"", "NUMBER", 2⟩) := rfl
  obtain ⟨-, hcolumns, hmetadata, halter⟩ := statements_unambiguous
  refine ⟨⟨hcreated, hview, rfl, rfl, ?_, ?_⟩, hsame, (halter _ _ _ _ rfl rfl hsame).1⟩
  · exact (hcolumns _ _ hcreated hview rfl).2.1
  · exact (hmetadata _ _ hcreated hview rfl rfl rfl).2.2

end Snowflake

end SchemaDrift
