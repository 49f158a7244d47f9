import SchemaDrift.Proofs.Identifier.Normalization
import SchemaDrift.Proofs.Snowflake.Unambiguous
import SchemaDrift.Text.Scan

/-!
# Which relation a statement is about

A relation is named in two ways. A statement that alters it names it part by part, in quotes or
bare as the relation says; Snowflake takes a quoted part as it stands and folds a bare one to upper
case. A statement that reads its columns compares the names that are stored with text literals,
where nothing is folded. So there are two relations: the **target**, which is altered, and the one
that is looked up.

* `Lookup.ofStatement?_readColumns`: what is looked up are the names of the relation, as they are.
* `targetParts_render_iff`: the target has the parts of `Relation.path`, unless there is a dot in a
  bare name. It would be read as the end of a part.
* `readColumns_reads_target_iff`: so the columns are those of the target exactly when folding
  changes no bare name.

Where nothing is quoted, as Snowflake projects have it unless they say otherwise, the columns of a
relation that is named in lower case are looked for under a name that it does not have.
-/

namespace SchemaDrift

/-- The parts of a path that are there, from the outermost in. -/
def RelationPath.parts (p : RelationPath) : List String :=
  p.database.toList ++ p.schema.toList ++ p.identifier.toList

/-! ### Taking a dotted name apart -/

namespace Text

variable {q : Char} {cs rest : List Char}

/-- Put characters in front of the first of several texts. -/
def prepend (cs : List Char) : List (List Char) → List (List Char)
  | [] => [cs]
  | part :: parts => (cs ++ part) :: parts

theorem prepend_cons (cs part : List Char) (parts : List (List Char)) :
    prepend cs (part :: parts) = (cs ++ part) :: parts := rfl

theorem prepend_nil {parts : List (List Char)} (h : parts ≠ []) : prepend [] parts = parts := by
  obtain ⟨part, parts, rfl⟩ := List.exists_cons_of_ne_nil h
  rfl

theorem prepend_prepend (cs ds : List Char) (parts : List (List Char)) :
    prepend cs (prepend ds parts) = prepend (cs ++ ds) parts := by
  cases parts with
  | nil => rfl
  | cons part parts => rw [prepend_cons, prepend_cons, prepend_cons, List.append_assoc]

theorem prepend_ne_nil (cs : List Char) (parts : List (List Char)) : prepend cs parts ≠ [] := by
  cases parts <;> exact List.cons_ne_nil _ _

theorem length_prepend {parts : List (List Char)} (h : parts ≠ []) (cs : List Char) :
    (prepend cs parts).length = parts.length := by
  obtain ⟨part, parts, rfl⟩ := List.exists_cons_of_ne_nil h
  rfl

/-- The **dotted parts** of a text: what its dots set apart, but for those between delimiters.
`inside` says that a delimiter is open. -/
def dottedParts (q : Char) : Bool → List Char → List (List Char)
  | _, [] => [[]]
  | inside, c :: cs =>
    if c = '.' ∧ inside = false then [] :: dottedParts q inside cs
    else prepend [c] (dottedParts q (inside ^^ (c == q)) cs)

theorem dottedParts_ne_nil (q : Char) (inside : Bool) (cs : List Char) :
    dottedParts q inside cs ≠ [] := by
  cases cs with
  | nil => exact List.cons_ne_nil _ _
  | cons c cs =>
    rw [dottedParts]
    split
    · exact List.cons_ne_nil _ _
    · exact prepend_ne_nil _ _

theorem dottedParts_dot (q : Char) (cs : List Char) :
    dottedParts q false ('.' :: cs) = [] :: dottedParts q false cs := by
  rw [dottedParts, if_pos ⟨rfl, rfl⟩]

/-- A delimiter opens or closes. -/
theorem dottedParts_delimiter (hq : q ≠ '.') (inside : Bool) (cs : List Char) :
    dottedParts q inside (q :: cs) = prepend [q] (dottedParts q (!inside) cs) := by
  rw [dottedParts, if_neg fun h => hq h.1, beq_self_eq_true, Bool.xor_true]

theorem dottedParts_cons {c : Char} {inside : Bool} (hq : c ≠ q) (hdot : c = '.' → inside = true)
    (cs : List Char) :
    dottedParts q inside (c :: cs) = prepend [c] (dottedParts q inside cs) := by
  have houter : ¬(c = '.' ∧ inside = false) := fun h => by
    rw [hdot h.1] at h
    exact Bool.noConfusion h.2
  rw [dottedParts, if_neg houter, beq_eq_false_iff_ne.mpr hq, Bool.xor_false]

/-- What no dot divides and no delimiter opens or closes is put in front. -/
theorem dottedParts_append {inside : Bool} (hq : q ∉ cs) (hdot : '.' ∈ cs → inside = true)
    (rest : List Char) :
    dottedParts q inside (cs ++ rest) = prepend cs (dottedParts q inside rest) := by
  -- without delimiters in `cs` it stays as it is whether one is open
  induction cs with
  | nil => rw [List.nil_append, prepend_nil (dottedParts_ne_nil q inside rest)]
  | cons c cs ih =>
    have hc : c ≠ q := Ne.symm (List.ne_of_not_mem_cons hq)
    have hcs : q ∉ cs := List.not_mem_of_not_mem_cons hq
    rw [List.cons_append, dottedParts_cons hc fun heq => hdot (heq ▸ List.mem_cons_self),
      ih hcs fun hmem => hdot (List.mem_cons_of_mem c hmem), prepend_prepend, List.singleton_append]

/-- A text between delimiters is one part. -/
theorem dottedParts_delimited_append (hq : q ≠ '.') (hcs : q ∉ cs) (rest : List Char) :
    dottedParts q false (delimited q cs ++ rest)
      = prepend (delimited q cs) (dottedParts q false rest) := by
  rw [delimited_append, dottedParts_delimiter hq, doubled_of_not_mem hcs, Bool.not_false,
    dottedParts_append hcs fun _ => rfl, dottedParts_delimiter hq, prepend_prepend,
    prepend_prepend, delimited, doubled_of_not_mem hcs, Bool.not_true, List.singleton_append]

/-- A text without delimiters has one part more than it has dots. -/
theorem length_dottedParts_append (hq : q ∉ cs) (rest : List Char) :
    (dottedParts q false (cs ++ rest)).length
      = cs.count '.' + (dottedParts q false rest).length := by
  induction cs with
  | nil => simp
  | cons c cs ih =>
    have hc : c ≠ q := Ne.symm (List.ne_of_not_mem_cons hq)
    have hcs : q ∉ cs := List.not_mem_of_not_mem_cons hq
    by_cases hdot : c = '.'
    · subst hdot
      rw [List.cons_append, dottedParts_dot, List.length_cons, ih hcs, List.count_cons_self]
      omega
    · rw [List.cons_append, dottedParts_cons hc fun heq => absurd heq hdot,
        length_prepend (dottedParts_ne_nil q false _), ih hcs, List.count_cons_of_ne hdot]

section Joined

variable {α : Type} {write : α → List Char} {as : List α}

theorem intercalate_map_cons_cons (a b : α) (as : List α) :
    ['.'].intercalate ((a :: b :: as).map write)
      = write a ++ '.' :: ['.'].intercalate ((b :: as).map write) := by
  rw [List.map_cons, List.map_cons, List.intercalate_cons_cons, List.append_assoc,
    List.singleton_append]

/-- Texts that are each one part are the parts of the text that joins them with dots. -/
theorem dottedParts_intercalate (has : as ≠ [])
    (h : ∀ a ∈ as, ∀ rest,
      dottedParts q false (write a ++ rest) = prepend (write a) (dottedParts q false rest)) :
    dottedParts q false (['.'].intercalate (as.map write)) = as.map write := by
  induction as with
  | nil => exact absurd rfl has
  | cons a as ih =>
    have ha := h a List.mem_cons_self
    cases as with
    | nil =>
      have hone := ha []
      rw [List.append_nil] at hone
      rw [List.map_singleton, List.intercalate_singleton, hone, dottedParts, prepend_cons,
        List.append_nil]
    | cons b as =>
      have hrest := ih (List.cons_ne_nil b as) fun c hc => h c (List.mem_cons_of_mem a hc)
      rw [intercalate_map_cons_cons, ha, dottedParts_dot, hrest, prepend_cons, List.append_nil]
      rfl

/-- Texts that are joined with dots have at least one part each, and not more than that only if
none of them adds to the number of parts by itself. -/
theorem length_dottedParts_intercalate {dots : α → Nat} (has : as ≠ [])
    (h : ∀ a ∈ as, ∀ rest, (dottedParts q false (write a ++ rest)).length
      = dots a + (dottedParts q false rest).length) :
    as.length ≤ (dottedParts q false (['.'].intercalate (as.map write))).length
      ∧ ((dottedParts q false (['.'].intercalate (as.map write))).length = as.length →
        ∀ a ∈ as, dots a = 0) := by
  induction as with
  | nil => exact absurd rfl has
  | cons a as ih =>
    have ha := h a List.mem_cons_self
    cases as with
    | nil =>
      have hone : (dottedParts q false (write a)).length = dots a + 1 := by
        rw [← List.append_nil (write a), ha, dottedParts, List.length_singleton]
      rw [List.map_singleton, List.intercalate_singleton, hone, List.length_singleton]
      refine ⟨Nat.le_add_left 1 (dots a), fun hlength c hc => ?_⟩
      rw [List.mem_singleton.mp hc]
      omega
    | cons b as =>
      have hrest := ih (List.cons_ne_nil b as) fun c hc => h c (List.mem_cons_of_mem a hc)
      have hlength : (dottedParts q false (['.'].intercalate ((a :: b :: as).map write))).length
          = dots a + ((dottedParts q false (['.'].intercalate ((b :: as).map write))).length
            + 1) := by
        rw [intercalate_map_cons_cons, ha, dottedParts_dot, List.length_cons]
      rw [hlength, List.length_cons]
      refine ⟨by omega, fun heq => List.forall_mem_cons.mpr ⟨by omega, hrest.2 (by omega)⟩⟩

end Joined

end Text

/-! ### What is looked up -/

namespace Snowflake

/-- What a statement that reads columns **looks up**. -/
structure Lookup where
  database : Option String
  schema : String
  table : String
deriving DecidableEq

namespace Lookup

open Text

/-- A name between delimiters. -/
def name (q : Char) : Scan String := do
  Scan.char q
  let cs ← upTo? q
  return String.ofList cs

/-- A statement that reads columns. -/
def statement : Scan Lookup := do
  Scan.literal "select column_name, data_type, ordinal_position from "
  let database ← Scan.option (name '"' <* Scan.char '.')
  Scan.literal "INFORMATION_SCHEMA.COLUMNS where table_schema = "
  let schema ← name '\''
  Scan.literal " and table_name = "
  let table ← name '\''
  Scan.literal " order by ordinal_position"
  return ⟨database, schema, table⟩

/-- What the text of a statement looks up, if it is one that reads columns. -/
def ofStatement? (sql : String) : Option Lookup := statement.run sql

theorem name_delimited {q : Char} {rest : List Char} (hrest : rest.head? ≠ some q) (s : String) :
    name q (delimited q s.toList ++ rest) = some (s, rest) := by
  rw [name, Scan.bind_apply, delimited_append, Scan.char_cons_self, Option.bind_some,
    Scan.bind_apply, upTo?_doubled hrest, Option.bind_some, String.ofList_toList]
  rfl

theorem name_textLiteral {α : Type} {rest : List Char} (hrest : rest.head? ≠ some '\'')
    (s : String) (p : String → Scan α) :
    (name '\'' >>= p) ((textLiteral s).toList ++ rest) = p s rest := by
  rw [Scan.bind_apply, toList_textLiteral, name_delimited hrest, Option.bind_some]

theorem option_name_view (database : Option String) (rest : List Char) :
    Scan.option (name '"' <* Scan.char '.') ((view database).toList ++ rest)
      = some (database, "INFORMATION_SCHEMA.COLUMNS".toList ++ rest) := by
  cases database with
  | none =>
    rw [toList_view_none]
    rfl
  | some database =>
    have hname : (name '"' <* Scan.char '.') ((view (some database)).toList ++ rest)
        = some (database, "INFORMATION_SCHEMA.COLUMNS".toList ++ rest) := by
      rw [toList_view_some, List.append_assoc, Scan.seqLeft_apply,
        name_delimited (by simp), Option.bind_some]
      rfl
    rw [Scan.option, hname]

/-- **What is looked up** are the names of the relation. -/
theorem ofStatement?_readColumns (r : Relation) :
    ofStatement? (readColumns r) = some ⟨r.database, r.schema.getD "", r.identifier⟩ := by
  refine Scan.run_eq_some ?_
  have hview : ∀ cs, "INFORMATION_SCHEMA.COLUMNS".toList ++ (" where table_schema = ".toList ++ cs)
      = "INFORMATION_SCHEMA.COLUMNS where table_schema = ".toList ++ cs := fun cs => by
    rw [← List.append_assoc, ← String.toList_append]
    rfl
  rw [toList_readColumns, statement, Scan.literal_bind, Scan.bind_apply, option_name_view,
    Option.bind_some, hview, Scan.literal_bind, name_textLiteral (by simp), Scan.literal_bind,
    name_textLiteral (by simp), ← List.append_nil " order by ordinal_position".toList,
    Scan.literal_bind]
  rfl

end Lookup

/-! ### What is altered -/

/-- The **parts** that a text names, from the outermost in, as Snowflake reads them. -/
def targetParts (text : String) : List String :=
  (Text.dottedParts engine.quoteChar false text.toList).map fun cs => engine.read (String.ofList cs)

/-- A part of a name as it is written. -/
def writePart (part : String × Bool) : String := if part.2 then engine.quote part.1 else part.1

/-- A part of a name as it is stored: bare parts are folded. -/
def storedPart (part : String × Bool) : String :=
  if part.2 then part.1 else engine.casing.fold part.1

variable {r : Relation}

theorem read_writePart {part : String × Bool} (h : engine.quoteChar ∉ part.1.toList) :
    engine.read (writePart part) = storedPart part := by
  obtain ⟨name, quoted⟩ := part
  cases quoted with
  | true => exact Engine.read_quote engine name
  | false =>
    have hbare : engine.startsQuoted name = false :=
      decide_eq_false fun hhead => h (List.mem_of_head? hhead)
    exact if_neg (Bool.eq_false_iff.mp hbare)

theorem normalizePart_eq_storedPart {name : String} (h : engine.quoteChar ∉ name.toList)
    (quoted : Bool) : normalizePart engine quoted name = storedPart (name, quoted) := by
  rw [normalizePart, Engine.isQuoted_of_not_mem h]
  rfl

/-- The path of a relation is its name as it is stored. -/
theorem path_eq (h : ∀ part ∈ r.nameParts, engine.quoteChar ∉ part.1.toList) :
    r.path engine
      = { database := r.database.map fun s => storedPart (s, r.quoting.database)
          schema := r.schema.map fun s => storedPart (s, r.quoting.schema)
          identifier := some (storedPart (r.identifier, r.quoting.identifier)) } := by
  have hpart : ∀ (o : Option String) (quoted : Bool), (∀ s ∈ o, engine.quoteChar ∉ s.toList) →
      o.map (normalizePart engine quoted) = o.map fun s => storedPart (s, quoted) :=
    fun o quoted hplain =>
      Option.map_congr fun s hs => normalizePart_eq_storedPart (hplain s hs) quoted
  obtain ⟨hdatabase, hschema, hidentifier⟩ := Relation.forall_mem_nameParts.mp h
  rw [Relation.path, normalizePath, hpart r.database _ hdatabase, hpart r.schema _ hschema,
    Option.map_some, normalizePart_eq_storedPart hidentifier]

theorem parts_path (h : ∀ part ∈ r.nameParts, engine.quoteChar ∉ part.1.toList) :
    (r.path engine).parts = r.nameParts.map storedPart := by
  rw [path_eq h, RelationPath.parts, Relation.nameParts]
  cases r.database <;> cases r.schema <;> rfl

theorem toList_render (r : Relation) :
    (r.render engine).toList
      = ['.'].intercalate (r.nameParts.map fun part => (writePart part).toList) := by
  rw [Relation.render, String.toList_intercalate, List.map_map]
  rfl

theorem nameParts_ne_nil (r : Relation) : r.nameParts ≠ [] :=
  List.append_ne_nil_of_right_ne_nil _ (List.cons_ne_nil _ _)

/-- The dots in a part that are not in quotes. -/
def bareDots (part : String × Bool) : Nat := if part.2 then 0 else part.1.toList.count '.'

theorem bareDots_eq_zero_iff {part : String × Bool} :
    bareDots part = 0 ↔ (part.2 = false → '.' ∉ part.1.toList) := by
  obtain ⟨name, quoted⟩ := part
  cases quoted with
  | true => exact ⟨fun _ => Bool.noConfusion, fun _ => rfl⟩
  | false =>
    have hcount : bareDots (name, false) = name.toList.count '.' := rfl
    rw [hcount, List.count_eq_zero]
    exact ⟨fun hdot _ => hdot, fun hdot => hdot rfl⟩

/-- A part is one dotted part if it has no dot outside of quotes. -/
theorem dottedParts_writePart_append {part : String × Bool}
    (h : engine.quoteChar ∉ part.1.toList) (hdots : bareDots part = 0) (rest : List Char) :
    Text.dottedParts engine.quoteChar false ((writePart part).toList ++ rest)
      = Text.prepend (writePart part).toList (Text.dottedParts engine.quoteChar false rest) := by
  obtain ⟨name, quoted⟩ := part
  cases quoted with
  | true =>
    have hwritten : (writePart (name, true)).toList
        = Text.delimited engine.quoteChar name.toList := engine.toList_quote name
    rw [hwritten, Text.dottedParts_delimited_append (by decide) h]
  | false =>
    have hdot := bareDots_eq_zero_iff.mp hdots rfl
    exact Text.dottedParts_append h (fun hmem => absurd hmem hdot) rest

/-- Each of these dots makes one part more. -/
theorem length_dottedParts_writePart_append {part : String × Bool}
    (h : engine.quoteChar ∉ part.1.toList) (rest : List Char) :
    (Text.dottedParts engine.quoteChar false ((writePart part).toList ++ rest)).length
      = bareDots part + (Text.dottedParts engine.quoteChar false rest).length := by
  obtain ⟨name, quoted⟩ := part
  cases quoted with
  | true =>
    have hdots : bareDots (name, true) = 0 := rfl
    rw [dottedParts_writePart_append h hdots, Text.length_prepend (Text.dottedParts_ne_nil _ _ _),
      hdots, Nat.zero_add]
  | false => exact Text.length_dottedParts_append h rest

/-- **What is altered** has the parts of the path exactly when no bare part has a dot in it. -/
theorem targetParts_render_iff (h : ∀ part ∈ r.nameParts, engine.quoteChar ∉ part.1.toList) :
    targetParts (r.render engine) = (r.path engine).parts
      ↔ ∀ part ∈ r.nameParts, part.2 = false → '.' ∉ part.1.toList := by
  simp only [← bareDots_eq_zero_iff]
  rw [parts_path h, targetParts, toList_render]
  constructor
  · -- the number of parts tells: it is right only if there are no dots to make more of them
    intro heq
    have hlength := congrArg List.length heq
    rw [List.length_map, List.length_map] at hlength
    have hparts := Text.length_dottedParts_intercalate (nameParts_ne_nil r) fun part hpart =>
      length_dottedParts_writePart_append (h part hpart)
    exact hparts.2 hlength
  · intro hdots
    rw [Text.dottedParts_intercalate (nameParts_ne_nil r)
      fun part hpart => dottedParts_writePart_append (h part hpart) (hdots part hpart),
      List.map_map]
    refine List.map_congr_left fun part hpart => ?_
    rw [Function.comp_apply, String.ofList_toList, read_writePart (h part hpart)]

/-! ### The two together -/

/-- The lookup of what has a path. -/
def Lookup.ofPath (p : RelationPath) : Lookup where
  database := p.database
  schema := p.schema.getD ""
  table := p.identifier.getD ""

theorem storedPart_eq_iff {part : String × Bool} :
    storedPart part = part.1 ↔ (part.2 = false → Text.upper part.1 = part.1) := by
  obtain ⟨name, quoted⟩ := part
  cases quoted with
  | true => exact ⟨fun _ => Bool.noConfusion, fun _ => rfl⟩
  | false => exact ⟨fun hfold _ => hfold, fun hfold => hfold rfl⟩

/-- **What is looked up** has the parts of the path exactly when folding changes no bare part. -/
theorem ofStatement?_readColumns_eq_ofPath_iff
    (h : ∀ part ∈ r.nameParts, engine.quoteChar ∉ part.1.toList) :
    Lookup.ofStatement? (readColumns r) = some (.ofPath (r.path engine))
      ↔ ∀ part ∈ r.nameParts, part.2 = false → Text.upper part.1 = part.1 := by
  have hdatabase : r.database = r.database.map (fun s => storedPart (s, r.quoting.database))
      ↔ ∀ s ∈ r.database, storedPart (s, r.quoting.database) = s := by
    cases r.database <;> simp [eq_comm]
  have hschema : r.schema.getD "" = (r.schema.map fun s => storedPart (s, r.quoting.schema)).getD ""
      ↔ ∀ s ∈ r.schema, storedPart (s, r.quoting.schema) = s := by
    cases r.schema <;> simp [eq_comm]
  simp only [← storedPart_eq_iff]
  rw [Lookup.ofStatement?_readColumns, path_eq h, Option.some.injEq, Lookup.ofPath,
    Lookup.mk.injEq, hdatabase, hschema, Option.getD_some, Relation.forall_mem_nameParts,
    eq_comm (a := r.identifier)]

/-- **Columns are not always read from the relation that is altered.** A statement that reads the
columns of a relation looks up its names, and one that alters it names them as its target; the
first are what the path of the relation says exactly when folding changes none of the names that
are bare, the second exactly when there is no dot in them. -/
theorem readColumns_reads_target_iff (r : Relation) (op : Operation)
    (h : ∀ part ∈ r.nameParts, '"' ∉ part.1.toList) :
    Lookup.ofStatement? (readColumns r) = some ⟨r.database, r.schema.getD "", r.identifier⟩
    ∧ (alter r op).toList
        = "alter table ".toList ++ ((r.render engine).toList ++ clause op)
    ∧ (Lookup.ofStatement? (readColumns r) = some (.ofPath (r.path engine))
        ↔ ∀ part ∈ r.nameParts, part.2 = false → Text.upper part.1 = part.1)
    ∧ (targetParts (r.render engine) = (r.path engine).parts
        ↔ ∀ part ∈ r.nameParts, part.2 = false → '.' ∉ part.1.toList) :=
  ⟨Lookup.ofStatement?_readColumns r, toList_alter r op, ofStatement?_readColumns_eq_ofPath_iff h,
    targetParts_render_iff h⟩

/-- The columns of a relation whose bare names are in upper case are those of the target. -/
theorem readColumns_reads_target_events :
    let events : Relation :=
      { database := some "raw.data", schema := some "CORE", identifier := "EVENTS",
        quoting := ⟨true, false, false⟩ }
    (∀ part ∈ events.nameParts, '"' ∉ part.1.toList)
      ∧ Lookup.ofStatement? (readColumns events) = some (.ofPath (events.path engine))
      ∧ targetParts (events.render engine) = (events.path engine).parts := by
  intro events
  have hplain : ∀ part ∈ events.nameParts, '"' ∉ part.1.toList := by decide +kernel
  obtain ⟨-, -, hlookup, htarget⟩ :=
    readColumns_reads_target_iff events (.drop ⟨"note", "TEXT", 1⟩) hplain
  exact ⟨hplain, hlookup.mpr (by decide +kernel), htarget.mpr (by decide +kernel)⟩

/-- Where nothing is quoted, a relation that is named in lower case is altered under its name in
upper case, and its columns are looked up under its name in lower case. -/
theorem readColumns_misses_target_orders :
    let orders : Relation :=
      { database := some "analytics", schema := some "core", identifier := "orders",
        quoting := .none }
    (∀ part ∈ orders.nameParts, '"' ∉ part.1.toList ∧ '\'' ∉ part.1.toList)
      ∧ Lookup.ofStatement? (readColumns orders) = some ⟨some "analytics", "core", "orders"⟩
      ∧ targetParts (orders.render engine) = ["ANALYTICS", "CORE", "ORDERS"]
      ∧ targetParts (orders.render engine) = (orders.path engine).parts
      ∧ Lookup.ofStatement? (readColumns orders) ≠ some (.ofPath (orders.path engine)) := by
  intro orders
  have hlookup : Lookup.ofStatement? (readColumns orders)
      = some ⟨some "analytics", "core", "orders"⟩ := Lookup.ofStatement?_readColumns orders
  have hpath : (orders.path engine).parts = ["ANALYTICS", "CORE", "ORDERS"] := by decide +kernel
  have htarget : targetParts (orders.render engine) = ["ANALYTICS", "CORE", "ORDERS"] := by
    decide +kernel
  refine ⟨by decide +kernel, hlookup, htarget, htarget.trans hpath.symm, ?_⟩
  rw [hlookup]
  decide +kernel

end Snowflake

end SchemaDrift
