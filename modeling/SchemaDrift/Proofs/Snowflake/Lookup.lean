import SchemaDrift.Proofs.Snowflake.Likeness
import SchemaDrift.Proofs.Warehouse.Listings

/-!
# What a lookup of one object describes

A lookup of one relation asks for what is like its identifier, and the answer may hold objects of
other names, in any order. What is described is the first row of the answer, whatever its name
(`Listing.DynamicTable.firstName_of_ofAnswer`, `Listing.CatalogEntry.name_of_ofAnswers`).

A warehouse **answers by pattern** when the names in its answers are like the patterns that were
asked for. Of such a warehouse, a lookup is sure to describe the object that was asked for exactly
when its identifier has no wildcard (`Session.lookups_describe_asked_iff`).
-/

namespace SchemaDrift

/-! ### What is described -/

/-- A table has **names like** a pattern when each of its rows that has a name has one like it. -/
def Table.NamesLike (t : Table) (pattern : String) : Prop :=
  ∀ row ∈ t.rows, ∀ name ∈ (t.lowerNames.cell row "name").cellText?,
    Text.Like pattern.toList name.toList

/-- The name in the first row of a table. -/
def Table.firstName (t : Table) : Option String := (t.lowerNames.value 0 "name").cellText?

theorem Table.NamesLike.firstName {t : Table} {pattern name : String} (h : t.NamesLike pattern)
    (hname : t.firstName = some name) : Text.Like pattern.toList name.toList := by
  rw [Table.firstName, Table.value, Table.rows_lowerNames] at hname
  cases hrow : t.rows[0]? with
  | none =>
    rw [hrow] at hname
    cases hname
  | some row =>
    rw [hrow] at hname
    exact h row (List.mem_of_getElem? hrow) name hname

/-- A table of objects of which nothing but the names is told. -/
def Table.ofNames (names : List String) : Table := ⟨["name"], names.map fun name => [.text name]⟩

theorem Table.cell_ofNames (names : List String) (name : String) :
    (ofNames names).lowerNames.cell [.text name] "name" = .text name := by
  have hcolumn : Text.lower "name" = "name" := by decide +kernel
  have hindex : (ofNames names).lowerNames.columnIndex? "name" = some 0 := by
    rw [columnIndex?, ofNames, lowerNames, List.map_singleton, hcolumn]
    rfl
  rw [cell, hindex]
  rfl

theorem Table.firstName_ofNames {name : String} (h : name ≠ "") (names : List String) :
    (ofNames (name :: names)).firstName = some name := by
  have hfirst : (ofNames (name :: names)).lowerNames.value 0 "name"
      = (ofNames (name :: names)).lowerNames.cell [.text name] "name" := rfl
  rw [firstName, hfirst, cell_ofNames, Value.cellText?_text h]

theorem Table.namesLike_ofNames {pattern : String} {names : List String}
    (h : ∀ name ∈ names, Text.Like pattern.toList name.toList) :
    (ofNames names).NamesLike pattern := by
  intro row hrow name hname
  obtain ⟨stored, hstored, rfl⟩ := List.mem_map.mp hrow
  rw [cell_ofNames] at hname
  by_cases hempty : stored = ""
  · rw [hempty] at hname
    cases hname
  · rw [Value.cellText?_text hempty] at hname
    rw [← Option.some.inj hname]
    exact h stored hstored

theorem Table.isEmpty_of_firstName {t : Table} {name : String} (h : t.firstName = some name) :
    t.lowerNames.isEmpty = false := by
  rw [Table.firstName, Table.value, Table.rows_lowerNames] at h
  rw [Table.isEmpty, Table.rows_lowerNames]
  cases hrows : t.rows with
  | nil =>
    rw [hrows] at h
    cases h
  | cons row rows => rfl

namespace Listing

variable {t : Table}

/-- The definition of a dynamic table has the name in the first row of the answer. -/
theorem DynamicTable.firstName_of_ofAnswer {sql : String} {m : DynamicTable}
    (h : ofAnswer sql (.ok t) = .ok (some m)) : t.firstName = some m.name := by
  rw [ofAnswer] at h
  dsimp only at h
  split at h
  · cases h
  · split at h
    · cases h
    · next name hname =>
      obtain rfl := Option.some.inj (Except.ok.inj h)
      exact hname

/-- A relation with a schema can be asked about. -/
theorem DynamicTable.exists_statement {r : Relation} (h : r.schema ≠ none) :
    ∃ sql, statement r = .ok sql := by
  obtain ⟨schema, hschema⟩ := Option.ne_none_iff_exists'.mp h
  rw [statement, hschema]
  exact ⟨_, rfl⟩

/-- A first row with a name makes a definition of a dynamic table. -/
theorem DynamicTable.exists_ofAnswer {name : String} (h : t.firstName = some name) (sql : String) :
    ∃ m, ofAnswer sql (.ok t) = .ok (some m) ∧ m.name = name := by
  have hrows := Bool.eq_false_iff.mp (Table.isEmpty_of_firstName h)
  have hname : (t.lowerNames.value 0 "name").cellText? = some name := h
  rw [ofAnswer]
  dsimp only
  rw [if_neg hrows, hname]
  exact ⟨_, rfl, rfl⟩

/-- A catalog entry has the name in the first row of the answer, or the one that was asked for if
that row has none. -/
theorem CatalogEntry.name_of_ofAnswers {asked : String} {columns : Except FetchError (List Column)}
    {e : CatalogEntry} (h : ofAnswers asked (.ok t) columns = .ok (some e)) :
    e.metadata.name = t.firstName.getD asked := by
  rw [ofAnswers] at h
  dsimp only at h
  split at h
  · cases h
  · cases hcolumns : Listing.columns columns with
    | error e =>
      rw [hcolumns] at h
      cases h
    | ok cs =>
      rw [hcolumns] at h
      obtain rfl := Option.some.inj (Except.ok.inj h)
      rfl

/-- A first row with a name makes a catalog entry, as far as the columns can be had. -/
theorem CatalogEntry.exists_ofAnswers {name : String} (h : t.firstName = some name) (asked : String)
    {columns : Except FetchError (List Column)} {cs : List Column}
    (hcolumns : Listing.columns columns = .ok cs) :
    ∃ e, ofAnswers asked (.ok t) columns = .ok (some e) ∧ e.metadata.name = name := by
  have hrows := Bool.eq_false_iff.mp (Table.isEmpty_of_firstName h)
  rw [ofAnswers]
  dsimp only
  rw [if_neg hrows, hcolumns]
  refine ⟨_, rfl, ?_⟩
  have hname : (t.lowerNames.value 0 "name").cellText? = some name := h
  rw [ObjectMetadata.ofTable, hname]
  rfl

end Listing

namespace Warehouse

open Listing

/-- A warehouse **answers by pattern** about a relation when the tables that it gives for the
statements about the relation have names like the patterns in these. -/
structure AnswersByPattern (w : Warehouse) (r : Relation) : Prop where
  metadata : ∀ t pattern, w.fetchMetadata r.fullyQuoted = .ok t →
    Snowflake.patternOf? (Snowflake.readMetadata r.fullyQuoted) = some pattern → t.NamesLike pattern
  result : ∀ sql t pattern, DynamicTable.statement r = .ok sql →
    (w.ask sql r.qualifiedName).2 = .ok t → Snowflake.patternOf? sql = some pattern →
      t.NamesLike pattern

/-- A warehouse that has one answer to both statements about a relation. -/
def answering (r : Relation) (t : Table) : Warehouse where
  metadata := Dictionary.empty.insert r.qualifiedName t
  results := (DynamicTable.statement r).toOption.elim .empty (Dictionary.empty.insert · t)

variable {r : Relation} {t : Table}

theorem fetchMetadata_answering (r : Relation) (t : Table) :
    (answering r t).fetchMetadata r.fullyQuoted = .ok t := by
  have hfound : (answering r t).metadata.find? r.qualifiedName = some t := by
    rw [answering, Dictionary.find?_insert, if_pos rfl]
  have hname : r.fullyQuoted.qualifiedName = r.qualifiedName := rfl
  rw [fetchMetadata, hname, hfound]
  rfl

theorem ask_answering {sql : String} (h : DynamicTable.statement r = .ok sql) (t : Table) :
    ((answering r t).ask sql r.qualifiedName).2 = .ok t := by
  have hfound : (answering r t).results.find? sql = some t := by
    rw [answering, h, Except.toOption, Option.elim_some, Dictionary.find?_insert, if_pos rfl]
  have hanswer : ((answering r t).ask sql r.qualifiedName).2
      = .ok (((answering r t).results.find? sql).getD default) := rfl
  rw [hanswer, hfound, Option.getD_some]

/-- It knows no columns, which counts as having none. -/
theorem columns_answering (r : Relation) (t : Table) :
    Listing.columns ((answering r t).fetchColumns r) = .ok [] := rfl

/-- It answers by pattern if its answer has names like the identifier. -/
theorem answersByPattern_answering (h : t.NamesLike r.identifier) :
    (answering r t).AnswersByPattern r := by
  constructor
  · intro t' pattern ht hpattern
    rw [fetchMetadata_answering] at ht
    rw [Snowflake.patternOf?_readMetadata] at hpattern
    obtain rfl := Except.ok.inj ht
    obtain rfl := Option.some.inj hpattern
    exact h
  · intro sql t' pattern hsql ht hpattern
    rw [ask_answering hsql] at ht
    rw [Snowflake.patternOf?_statement hsql] at hpattern
    obtain rfl := Except.ok.inj ht
    obtain rfl := Option.some.inj hpattern
    exact h

end Warehouse

/-! ### Main result -/

namespace Session

open Listing

variable {w : Warehouse} {r : Relation}

theorem dynamicTable_eq {sql : String} (h : DynamicTable.statement r = .ok sql) :
    (dynamicTable w r).2 = DynamicTable.ofAnswer sql (w.ask sql r.qualifiedName).2 := by
  rw [dynamicTable, h]

/-- The definition of a dynamic table has a name like the identifier that was asked for. -/
theorem like_of_dynamicTable (hw : w.AnswersByPattern r) {m : DynamicTable}
    (h : (dynamicTable w r).2 = .ok (some m)) :
    Text.Like r.identifier.toList m.name.toList := by
  cases hsql : DynamicTable.statement r with
  | error e =>
    rw [dynamicTable, hsql] at h
    cases h
  | ok sql =>
    rw [dynamicTable_eq hsql] at h
    cases hanswer : (w.ask sql r.qualifiedName).2 with
    | error e =>
      rw [hanswer] at h
      cases h
    | ok t =>
      rw [hanswer] at h
      have hlike := hw.result sql t r.identifier hsql hanswer (Snowflake.patternOf?_statement hsql)
      exact hlike.firstName (DynamicTable.firstName_of_ofAnswer h)

/-- So has a catalog entry. -/
theorem like_of_catalogEntry (hw : w.AnswersByPattern r) {e : CatalogEntry}
    (h : catalogEntry w r = .ok (some e)) :
    Text.Like r.identifier.toList e.metadata.name.toList := by
  rw [catalogEntry] at h
  cases hanswer : w.fetchMetadata r.fullyQuoted with
  | error e' =>
    rw [hanswer] at h
    cases h
  | ok t =>
    rw [hanswer] at h
    have hlike := hw.metadata t r.identifier hanswer
      (Snowflake.patternOf?_readMetadata r.fullyQuoted)
    rw [CatalogEntry.name_of_ofAnswers h]
    cases hname : t.firstName with
    | none => exact .refl _
    | some name => exact hlike.firstName hname

/-- Where the pattern has a wildcard, a warehouse may answer with another object only. -/
theorem exists_answering_other {c : Char} (hc : c ∈ r.identifier.toList)
    (hwildcard : Text.isWildcard c = true) :
    ∃ name, name ≠ "" ∧ Text.eqIgnoringCase name r.identifier = false
      ∧ (Warehouse.answering r (.ofNames [name])).AnswersByPattern r := by
  obtain ⟨s, hlike, hne, hother⟩ := Text.exists_like_of_wildcard hc hwildcard
  refine ⟨String.ofList s, fun hnil => hne ?_, Bool.eq_false_iff.mpr fun hsame => hother ?_, ?_⟩
  · rw [← String.toList_ofList (l := s), hnil]
    rfl
  · have hlower := String.ofList_inj.mp (Text.eqIgnoringCase_iff.mp hsame)
    rwa [String.toList_ofList] at hlower
  · refine Warehouse.answersByPattern_answering (Table.namesLike_ofNames fun name hname => ?_)
    rw [List.mem_singleton.mp hname, String.toList_ofList]
    exact hlike

/-- **When lookups describe what was asked for.** Of a warehouse that answers by pattern, the
definition of a dynamic table is sure to be that of the relation that was asked for exactly when
the identifier has no wildcard, or when nothing is asked because the relation has no schema. The
catalog entry is sure to be that of the relation exactly when the identifier has no wildcard. -/
theorem lookups_describe_asked_iff (r : Relation) :
    ((∀ w : Warehouse, w.AnswersByPattern r → ∀ m, (dynamicTable w r).2 = .ok (some m) →
        Text.eqIgnoringCase m.name r.identifier = true)
      ↔ r.schema = none ∨ ∀ c ∈ r.identifier.toList, Text.isWildcard c = false)
    ∧ ((∀ w : Warehouse, w.AnswersByPattern r → ∀ e, catalogEntry w r = .ok (some e) →
        Text.eqIgnoringCase e.metadata.name r.identifier = true)
      ↔ ∀ c ∈ r.identifier.toList, Text.isWildcard c = false) := by
  refine ⟨⟨fun hsure => ?_, ?_⟩, ⟨fun hsure c hc => ?_, ?_⟩⟩
  · refine or_iff_not_imp_left.mpr fun hschema c hc => Bool.eq_false_iff.mpr fun hwildcard => ?_
    obtain ⟨name, hne, hother, hw⟩ := exists_answering_other hc hwildcard
    obtain ⟨sql, hsql⟩ := DynamicTable.exists_statement hschema
    obtain ⟨m, hm, hname⟩ := DynamicTable.exists_ofAnswer (Table.firstName_ofNames hne []) sql
    have hdescribed := hsure _ hw m (by rw [dynamicTable_eq hsql, Warehouse.ask_answering hsql, hm])
    rw [hname, hother] at hdescribed
    cases hdescribed
  · rintro (hschema | hplain) w hw m hm
    · rw [dynamicTable, DynamicTable.statement, hschema] at hm
      cases hm
    · exact (like_of_dynamicTable hw hm).eqIgnoringCase hplain
  · refine Bool.eq_false_iff.mpr fun hwildcard => ?_
    obtain ⟨name, hne, hother, hw⟩ := exists_answering_other hc hwildcard
    obtain ⟨e, he, hname⟩ := CatalogEntry.exists_ofAnswers (Table.firstName_ofNames hne [])
      r.identifier (Warehouse.columns_answering r (.ofNames [name]))
    have hdescribed := hsure _ hw e (by rw [catalogEntry, Warehouse.fetchMetadata_answering, he])
    rw [hname, hother] at hdescribed
    cases hdescribed
  · intro hplain w hw e he
    exact (like_of_catalogEntry hw he).eqIgnoringCase hplain

/-- Both lookups of `ORDERS_LIVE` describe `ORDERSXLIVE` where that comes first in an answer that
holds both. -/
theorem lookups_describe_other_orders :
    let r : Relation := ⟨some "ANALYTICS", some "CORE", "ORDERS_LIVE", .table, .native, .all⟩
    let w := Warehouse.answering r (.ofNames ["ORDERSXLIVE", "ORDERS_LIVE"])
    w.AnswersByPattern r
    ∧ (dynamicTable w r).2.map (Option.map (·.name)) = .ok (some "ORDERSXLIVE")
    ∧ (catalogEntry w r).map (Option.map (·.metadata.name)) = .ok (some "ORDERSXLIVE")
    ∧ Text.eqIgnoringCase "ORDERSXLIVE" r.identifier = false := by
  intro r w
  have hother : Text.Like "ORDERS_LIVE".toList "ORDERSXLIVE".toList :=
    .append_left "ORDERS".toList (.one 'X' (.refl "LIVE".toList))
  refine ⟨Warehouse.answersByPattern_answering (Table.namesLike_ofNames fun name hname => ?_), ?_⟩
  · rcases List.mem_cons.mp hname with rfl | hname
    · exact hother
    · rw [List.mem_singleton.mp hname]
      exact .refl _
  · decide +kernel

end Session

end SchemaDrift
