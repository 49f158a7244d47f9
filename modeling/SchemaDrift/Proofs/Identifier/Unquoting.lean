import SchemaDrift.Proofs.Identifier.Idempotence

/-!
# How far quotes are undone

A name is quoted by one rule and taken out of its quotes by another: quoting doubles the quote
characters in the name, but normalization and keys only drop the quote characters at the ends and
leave pairs of them as they stand. What is left of a quoted name is therefore the stripped name
with its quote characters doubled (`Engine.stripQuotes_quote_eq`), and everything else follows from
where doubling shows:

* normalization gives the name back when no quote character is in it;
* the key is that of the name when no quote character is left in the stripped name. Folding does
  not hide a doubled quote character, for it keeps their number
  (`Engine.fold_doubled_eq_iff`).

`normalize_undoes_quote_iff` is both at once, and says that the names which come back are those
that are quoted without doubling anything.
-/

namespace SchemaDrift

namespace Engine

variable {e : Engine} {name : String}

/-- What is left of a quoted name: the stripped name, with its quote characters doubled. -/
theorem stripQuotes_quote_eq (e : Engine) (name : String) :
    e.stripQuotes (e.quote name)
      = String.ofList (Text.doubled e.quoteChar (e.stripQuotes name).toList) := by
  have hquote : (e.quoteChar == e.quoteChar) = true := beq_self_eq_true e.quoteChar
  have hinside : Text.trimBoth (· == e.quoteChar) (Text.delimited e.quoteChar name.toList)
      = Text.doubled e.quoteChar (Text.trimBoth (· == e.quoteChar) name.toList) := by
    rw [Text.delimited, Text.trimBoth_between (p := (· == e.quoteChar)) hquote hquote,
      Text.trimBoth_doubled]
  rw [stripQuotes, toList_quote, hinside, stripQuotes, String.toList_ofList]

/-- Stripping gives a quoted name back when no quote character is in it. -/
theorem stripQuotes_quote_eq_self_iff :
    e.stripQuotes (e.quote name) = name ↔ e.quoteChar ∉ name.toList := by
  refine ⟨fun h => ?_, stripQuotes_quote⟩
  -- what comes back has no quote character at its ends, so the name had none there to lose
  have hhead : name.toList.head? ≠ some e.quoteChar := by
    intro hquote
    rw [← h] at hquote
    exact e.head?_stripQuotes_ne _ hquote
  have hlast : name.toList.getLast? ≠ some e.quoteChar := by
    intro hquote
    rw [← h] at hquote
    exact e.getLast?_stripQuotes_ne _ hquote
  rw [stripQuotes_quote_eq, stripQuotes_eq_self hhead hlast, ← String.toList_inj,
    String.toList_ofList] at h
  exact Text.doubled_eq_self_iff.mp h

/-- A name is put between quote characters as it stands when no quote character is in it. -/
theorem toList_quote_eq_wrapped_iff :
    (e.quote name).toList = e.quoteChar :: name.toList ++ [e.quoteChar]
      ↔ e.quoteChar ∉ name.toList := by
  rw [toList_quote, Text.delimited, List.append_left_inj, List.cons_inj_right,
    Text.doubled_eq_self_iff]

/-- Folding does not hide that a quote character is doubled. -/
theorem fold_doubled_eq_iff (hq : Text.IsCaseless e.quoteChar) :
    e.casing.fold (String.ofList (Text.doubled e.quoteChar name.toList)) = e.casing.fold name
      ↔ e.quoteChar ∉ name.toList := by
  constructor
  · intro h
    have hdoubled := (e.casing.inBlocks_fold
      (String.ofList (Text.doubled e.quoteChar name.toList))).count_eq hq
    have hplain := (e.casing.inBlocks_fold name).count_eq hq
    rw [h, hplain, String.toList_ofList, Text.count_doubled] at hdoubled
    have hnone : name.toList.count e.quoteChar = 0 := by omega
    exact List.count_eq_zero.mp hnone
  · intro h
    rw [Text.doubled_of_not_mem h, String.ofList_toList]

/-- A quoted name has the key of the name when no quote character is in the stripped name. -/
theorem columnKey_quote_eq_iff (hq : Text.IsCaseless e.quoteChar) :
    e.columnKey (e.quote name) = e.columnKey name
      ↔ e.quoteChar ∉ (e.stripQuotes name).toList := by
  rw [columnKey, columnKey, stripQuotes_quote_eq, fold_doubled_eq_iff hq]

end Engine

/-- **Normalization undoes quoting** exactly for the names without quote characters, which are
those that are quoted without doubling anything, and whatever is said about quoting the part. The
key is not changed by quoting exactly when no quote character is left in the stripped name. -/
theorem normalize_undoes_quote_iff {e : Engine} (h : e.UsesQuotes) (name : String) :
    (∀ (policy : QuotePolicy) (part : NamePart), ∃ decoded,
      normalize e policy part (some (e.quote name)) = .ok decoded
        ∧ (decoded = name ↔ e.quoteChar ∉ name.toList))
      ∧ (e.columnKey (e.quote name) = e.columnKey name
        ↔ e.quoteChar ∉ (e.stripQuotes name).toList)
      ∧ ((e.quote name).toList = e.quoteChar :: name.toList ++ [e.quoteChar]
        ↔ e.quoteChar ∉ name.toList) := by
  refine ⟨fun policy part => ?_, Engine.columnKey_quote_eq_iff h.isCaseless,
    Engine.toList_quote_eq_wrapped_iff⟩
  have hstripped : normalizePart e (policy.forPart part) (e.quote name)
      = e.stripQuotes (e.quote name) := if_pos (e.isQuoted_quote name)
  refine ⟨e.stripQuotes (e.quote name), congrArg Except.ok hstripped, ?_⟩
  exact Engine.stripQuotes_quote_eq_self_iff

/-- A name that has come with its quotes: they are doubled and lost again, so the name does not
come back, but its key does. -/
theorem normalize_undoes_quote_iff_wrapped :
    let e := Dialect.athena.engine
    let name := "\"Größe\""
    e.UsesQuotes
      ∧ (∃ decoded, normalize e .all .identifier (some (e.quote name)) = .ok decoded
        ∧ decoded ≠ name)
      ∧ e.columnKey (e.quote name) = e.columnKey name := by
  intro e name
  have hquotes : e.UsesQuotes := Dialect.usesQuotes .athena
  obtain ⟨hnormalize, hkey, -⟩ := normalize_undoes_quote_iff hquotes name
  obtain ⟨decoded, hdecoded, hiff⟩ := hnormalize .all .identifier
  have hquoted : e.quoteChar ∈ name.toList := by decide +kernel
  have hstripped : e.quoteChar ∉ (e.stripQuotes name).toList := by decide +kernel
  exact ⟨hquotes, ⟨decoded, hdecoded, fun heq => hiff.mp heq hquoted⟩, hkey.mpr hstripped⟩

end SchemaDrift
