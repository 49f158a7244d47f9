import SchemaDrift.Drift
import SchemaDrift.Proofs.Identifier.Normalization
import SchemaDrift.Proofs.Text.CaseConversion

/-!
# Normalizing what is normalized

A stored spelling can come back as input: a key is compared as a name, a normalized part is
normalized again. What a second pass does rests on two facts. Folding is idempotent, over all of
Unicode; and it neither makes nor moves a quote character at an end, for quotation marks and
backticks are caseless.

* `Engine.columnKey_columnKey`: the key of a name is its own key.
* `key_names_same_column`: so a column and the column under its key have not drifted apart.
* `normalize_twice`: a second normalization does nothing, but for a wrapped name whose part is
  not quoted; there the first pass takes the quotes away and the second one folds.
-/

namespace SchemaDrift

/-! ### Folding -/

namespace Casing

variable (casing : Casing)

/-- **A folded name is not changed by folding.** -/
theorem fold_fold (name : String) : casing.fold (casing.fold name) = casing.fold name := by
  cases casing with
  | upper => exact Text.upper_upper name
  | lower => exact Text.lower_lower name
  | preserve => rfl

theorem inBlocks_fold (name : String) :
    Text.InBlocks name.toList (casing.fold name).toList := by
  cases casing with
  | upper => exact Text.inBlocks_upper name
  | lower => exact Text.inBlocks_lower name
  | preserve => exact .refl name.toList

end Casing

namespace Engine

variable {e : Engine} {name : String}

/-! ### Names between quotes -/

/-- Engines that quote with quotation marks or with backticks. -/
def UsesQuotes (e : Engine) : Prop := e.quoteChar = '"' ∨ e.quoteChar = '\x60'

/-- A name is **wrapped** when it has a quote character at each end. -/
def IsWrapped (e : Engine) (name : String) : Prop :=
  ∃ inside, name.toList = e.quoteChar :: inside ++ [e.quoteChar]

theorem UsesQuotes.isCaseless (h : e.UsesQuotes) : Text.IsCaseless e.quoteChar := by
  have hquotes : Text.areCaseless ['"'.toNat, '\x60'.toNat] = true := by decide +kernel
  refine Text.isCaseless_of_areCaseless hquotes ?_
  rcases h with h | h
  · rw [h]
    exact List.mem_cons_self
  · rw [h]
    exact List.mem_cons_of_mem _ List.mem_cons_self

theorem isQuoted_iff : e.isQuoted name = true ↔ 2 ≤ name.toList.length
    ∧ name.toList.head? = some e.quoteChar ∧ name.toList.getLast? = some e.quoteChar := by
  rw [isQuoted, Bool.and_eq_true, Bool.and_eq_true, decide_eq_true_eq, decide_eq_true_eq,
    decide_eq_true_eq, and_assoc]

theorem isQuoted_iff_isWrapped : e.isQuoted name = true ↔ e.IsWrapped name := by
  rw [isQuoted_iff, IsWrapped]
  constructor
  · rintro ⟨hlength, hhead, hlast⟩
    obtain ⟨rest, hrest⟩ := List.head?_eq_some_iff.mp hhead
    have hne : rest ≠ [] := by
      rintro rfl
      rw [hrest] at hlength
      exact absurd hlength (by simp)
    rw [hrest, List.getLast?_cons_of_ne_nil hne] at hlast
    obtain ⟨inside, hinside⟩ := List.getLast?_eq_some_iff.mp hlast
    exact ⟨inside, by rw [hrest, hinside, List.cons_append]⟩
  · rintro ⟨inside, hname⟩
    refine ⟨?_, ?_, ?_⟩
    · rw [hname, List.length_append, List.length_cons, List.length_singleton]
      omega
    · rw [hname, List.cons_append, List.head?_cons]
    · rw [hname, List.getLast?_concat]

theorem head?_stripQuotes_ne (e : Engine) (name : String) :
    (e.stripQuotes name).toList.head? ≠ some e.quoteChar := by
  have hself : (e.quoteChar == e.quoteChar) = true := beq_self_eq_true e.quoteChar
  rw [stripQuotes, String.toList_ofList]
  exact Text.head?_trimBoth_ne (· == e.quoteChar) name.toList hself

theorem getLast?_stripQuotes_ne (e : Engine) (name : String) :
    (e.stripQuotes name).toList.getLast? ≠ some e.quoteChar := by
  have hself : (e.quoteChar == e.quoteChar) = true := beq_self_eq_true e.quoteChar
  rw [stripQuotes, String.toList_ofList]
  exact Text.getLast?_trimBoth_ne (· == e.quoteChar) name.toList hself

/-- A name without quote characters at its ends has none to lose. -/
theorem stripQuotes_eq_self (hhead : name.toList.head? ≠ some e.quoteChar)
    (hlast : name.toList.getLast? ≠ some e.quoteChar) : e.stripQuotes name = name := by
  have hends : Text.trimBoth (· == e.quoteChar) name.toList = name.toList := by
    refine Text.trimBoth_of_ends (fun c hc => ?_) fun c hc => ?_
    · exact beq_eq_false_iff_ne.mpr fun hquote => hhead (hquote ▸ hc)
    · exact beq_eq_false_iff_ne.mpr fun hquote => hlast (hquote ▸ hc)
  rw [stripQuotes, hends, String.ofList_toList]

/-- A name without its quotes is not wrapped. -/
theorem isQuoted_stripQuotes (e : Engine) (name : String) :
    e.isQuoted (e.stripQuotes name) = false :=
  Bool.eq_false_iff.mpr fun hquoted =>
    e.head?_stripQuotes_ne name (isQuoted_iff.mp hquoted).2.1

section Caseless

variable (hq : Text.IsCaseless e.quoteChar)

include hq

/-- Folding wraps no name. -/
theorem isQuoted_fold (h : e.isQuoted name = false) : e.isQuoted (e.casing.fold name) = false := by
  have hblocks := e.casing.inBlocks_fold name
  refine Bool.eq_false_iff.mpr fun hfold => ?_
  obtain ⟨hlength, hhead, hlast⟩ := isQuoted_iff.mp hfold
  rw [hblocks.head?_eq_some_iff hq] at hhead
  rw [hblocks.getLast?_eq_some_iff hq] at hlast
  -- both ends are quote characters, so they are one, and folding does not make it two
  have hshort : name.toList.length < 2 := by
    refine Nat.lt_of_not_le fun hlong => ?_
    rw [isQuoted_iff.mpr ⟨hlong, hhead, hlast⟩] at h
    cases h
  obtain ⟨rest, hrest⟩ := List.head?_eq_some_iff.mp hhead
  have hnil : rest = [] := by
    rw [hrest, List.length_cons] at hshort
    exact List.eq_nil_of_length_eq_zero (by omega)
  rw [hrest, hnil] at hblocks
  rw [hblocks.eq_singleton hq] at hlength
  exact absurd hlength (by simp)

/-- Folding puts no quote character at an end of a stripped name. -/
theorem stripQuotes_fold_stripQuotes (name : String) :
    e.stripQuotes (e.casing.fold (e.stripQuotes name)) = e.casing.fold (e.stripQuotes name) := by
  have hblocks := e.casing.inBlocks_fold (e.stripQuotes name)
  refine stripQuotes_eq_self ?_ ?_
  · rw [ne_eq, hblocks.head?_eq_some_iff hq]
    exact e.head?_stripQuotes_ne name
  · rw [ne_eq, hblocks.getLast?_eq_some_iff hq]
    exact e.getLast?_stripQuotes_ne name

/-- **A key is its own key.** -/
theorem columnKey_columnKey (name : String) :
    e.columnKey (e.columnKey name) = e.columnKey name := by
  rw [columnKey, columnKey, stripQuotes_fold_stripQuotes hq, Casing.fold_fold]

/-- A name that is normalized without quotes is normalized for good. -/
theorem normalizePart_normalizePart_of_not_isQuoted (quoted : Bool)
    (h : e.isQuoted name = false) :
    normalizePart e quoted (normalizePart e quoted name) = normalizePart e quoted name := by
  cases quoted with
  | true =>
    have hkept : normalizePart e true name = name := by
      rw [normalizePart, h, if_neg Bool.false_ne_true, if_pos rfl]
    rw [hkept, hkept]
  | false =>
    rw [normalizePart_of_not_isQuoted h, normalizePart_of_not_isQuoted (isQuoted_fold hq h),
      Casing.fold_fold]

end Caseless

/-- What stood between quotes is stripped once; after that it is a name like any other. -/
theorem normalizePart_normalizePart_of_isQuoted (quoted : Bool) (h : e.isQuoted name = true) :
    normalizePart e quoted name = e.stripQuotes name
      ∧ normalizePart e quoted (e.stripQuotes name)
        = if quoted then e.stripQuotes name else e.casing.fold (e.stripQuotes name) := by
  refine ⟨if_pos h, ?_⟩
  rw [normalizePart, isQuoted_stripQuotes, if_neg Bool.false_ne_true]

end Engine

/-! ### Keys -/

/-- Two columns with one key and one type have not drifted apart. -/
theorem Drift.between_singleton {e : Engine} {c d : Column} (hkey : c.key e = d.key e)
    (htype : c.dataType = d.dataType) : between e [c] [d] = .none := by
  simp [between, firstOfEachKey, retyped?, none, hkey, htype]

/-- The column under its key. -/
def Column.underKey (e : Engine) (c : Column) : Column := { c with name := e.columnKey c.name }

/-- **A name and its key are names of one column.** The key of a name is its own key, and a column
that is renamed to its key has not drifted, in either direction. -/
theorem key_names_same_column {e : Engine} (h : e.UsesQuotes) :
    (∀ name, e.columnKey (e.columnKey name) = e.columnKey name)
      ∧ ∀ c : Column, Drift.between e [c] [c.underKey e] = .none
        ∧ Drift.between e [c.underKey e] [c] = .none := by
  have hkeys : ∀ name, e.columnKey (e.columnKey name) = e.columnKey name :=
    Engine.columnKey_columnKey h.isCaseless
  refine ⟨hkeys, fun c => ?_⟩
  have hkey : (c.underKey e).key e = c.key e := hkeys c.name
  exact ⟨Drift.between_singleton hkey.symm rfl, Drift.between_singleton hkey rfl⟩

/-- Every engine that a project can name uses quotation marks or backticks. -/
theorem Dialect.usesQuotes (d : Dialect) : d.engine.UsesQuotes := by
  cases d with
  | bigQuery => exact .inr rfl
  | snowflake | postgres | athena | ansi => exact .inl rfl

/-- A capital sigma ends the word, and stays what it became. -/
theorem key_names_same_column_sigma :
    let e := Dialect.athena.engine
    e.UsesQuotes ∧ e.columnKey "\"ΟΔΟΣ\"" = "οδος" ∧ e.columnKey "οδος" = "οδος" := by
  intro e
  have hkey : e.columnKey "\"ΟΔΟΣ\"" = "οδος" := by decide +kernel
  have hagain := (key_names_same_column (Dialect.usesQuotes .athena)).1 "\"ΟΔΟΣ\""
  rw [hkey] at hagain
  exact ⟨Dialect.usesQuotes .athena, hkey, hagain⟩

/-! ### Parts of names -/

/-- **Normalizing twice** is normalizing once, but for a wrapped name whose part is not quoted and
which is not stored as it stands between its quotes. There the second pass folds. -/
theorem normalize_twice {e : Engine} (h : e.UsesQuotes) (policy : QuotePolicy) (part : NamePart)
    (name : String) :
    ∃ once twice, normalize e policy part (some name) = .ok once
      ∧ normalize e policy part (some once) = .ok twice
      ∧ (twice ≠ once ↔ e.IsWrapped name ∧ policy.forPart part = false
          ∧ e.casing.fold (e.stripQuotes name) ≠ e.stripQuotes name)
      ∧ (twice ≠ once → twice = e.casing.fold (e.stripQuotes name)) := by
  refine ⟨_, _, rfl, rfl, ?_⟩
  rw [← Engine.isQuoted_iff_isWrapped]
  cases hquoted : e.isQuoted name with
  | false =>
    have hsame := Engine.normalizePart_normalizePart_of_not_isQuoted h.isCaseless
      (policy.forPart part) hquoted
    rw [hsame]
    simp
  | true =>
    obtain ⟨hfirst, hsecond⟩ :=
      Engine.normalizePart_normalizePart_of_isQuoted (policy.forPart part) hquoted
    rw [hfirst, hsecond]
    cases policy.forPart part with
    | true => simp
    | false => simp

/-- A wrapped name in mixed case, where names are left bare. -/
theorem normalize_twice_orders :
    let e := Dialect.snowflake.engine
    e.UsesQuotes ∧ ∃ once twice,
      normalize e .none .identifier (some "\"Orders\"") = .ok once
        ∧ normalize e .none .identifier (some once) = .ok twice
        ∧ twice ≠ once ∧ twice = "ORDERS" := by
  intro e
  have hquotes : e.UsesQuotes := Dialect.usesQuotes .snowflake
  obtain ⟨once, twice, honce, htwice, hexception, hfold⟩ :=
    normalize_twice hquotes .none .identifier "\"Orders\""
  have hwrapped : e.IsWrapped "\"Orders\"" := ⟨"Orders".toList, by decide +kernel⟩
  have hne : twice ≠ once := hexception.mpr ⟨hwrapped, rfl, by decide +kernel⟩
  have hstored : e.casing.fold (e.stripQuotes "\"Orders\"") = "ORDERS" := by decide +kernel
  exact ⟨hquotes, once, twice, honce, htwice, hne, (hfold hne).trans hstored⟩

end SchemaDrift
