import SchemaDrift.Operation
import SchemaDrift.Proofs.Text.Delimited
import SchemaDrift.Proofs.Text.Segments

/-!
# How an engine reads a name in a statement

What an engine makes of a name depends on how the name is written. In quotes it is taken as
written, with each doubled quote character read as one; without quotes it is folded by the casing
of the engine, and can be a keyword. A name that is written as `Engine.quoteIfNeeded` says comes
through unharmed:

* `read_quote`: quotes preserve every name, whatever characters are in it.
* `startsQuoted_quoteIfNeeded_eq_false_iff`: quotes are left out exactly for a **bare name** that
  is no reserved word and that the casing does not change.
* `quotedName_names_column`: on every engine a project can name, what is read is the name of the
  column.
* `quoteIfNeeded_append_inj`: quoted or not, a name can be told from what follows it.

That quotes can be left out at all needs one thing of the engine: its quote character must not
occur in a bare name, or a bare name could look quoted.
-/

namespace SchemaDrift

/-! ### Bare names -/

/-- A character that a bare name can start with. -/
def StartsBareName (c : Char) : Prop := ('A' ≤ c ∧ c ≤ 'Z') ∨ ('a' ≤ c ∧ c ≤ 'z') ∨ c = '_'

/-- A character that a bare name can hold. -/
def InBareName (c : Char) : Prop := StartsBareName c ∨ ('0' ≤ c ∧ c ≤ '9')

instance : DecidablePred StartsBareName := fun c =>
  inferInstanceAs (Decidable (('A' ≤ c ∧ c ≤ 'Z') ∨ ('a' ≤ c ∧ c ≤ 'z') ∨ c = '_'))

instance : DecidablePred InBareName := fun c =>
  inferInstanceAs (Decidable (StartsBareName c ∨ ('0' ≤ c ∧ c ≤ '9')))

/-- A **bare name** is a letter or an underscore, then letters, digits and underscores. -/
def IsBareName (name : String) : Prop :=
  ∃ c cs, name.toList = c :: cs ∧ StartsBareName c ∧ ∀ d ∈ cs, InBareName d

/-- A text is **unreserved** when no reserved word is equal to it in any ASCII case. -/
def IsUnreserved (name : String) : Prop :=
  ∀ word ∈ reservedWords, Text.eqIgnoringCase word name = false

theorem startsBareName_iff {c : Char} :
    (c.isAlpha || decide (c = '_')) = true ↔ StartsBareName c := by
  have hupper : c.isUpper = true ↔ 'A' ≤ c ∧ c ≤ 'Z' := decide_eq_true_iff
  have hlower : c.isLower = true ↔ 'a' ≤ c ∧ c ≤ 'z' :=
    Bool.and_eq_true_iff.trans (and_congr decide_eq_true_iff decide_eq_true_iff)
  have hletter : c.isAlpha = true ↔ c.isUpper = true ∨ c.isLower = true := Bool.or_eq_true_iff
  rw [Bool.or_eq_true, hletter, hupper, hlower, decide_eq_true_iff, or_assoc, StartsBareName]

theorem inBareName_iff {c : Char} :
    (c.isAlphanum || decide (c = '_')) = true ↔ InBareName c := by
  have hdigit : c.isDigit = true ↔ '0' ≤ c ∧ c ≤ '9' :=
    Bool.and_eq_true_iff.trans (and_congr decide_eq_true_iff decide_eq_true_iff)
  have hclasses : c.isAlphanum = (c.isAlpha || c.isDigit) := rfl
  rw [hclasses, Bool.or_right_comm, Bool.or_eq_true, startsBareName_iff, hdigit, InBareName]

theorem isPlainName_iff {name : String} : isPlainName name = true ↔ IsBareName name := by
  rw [isPlainName, IsBareName]
  cases hname : name.toList with
  | nil => simp
  | cons c cs =>
    rw [Bool.and_eq_true, startsBareName_iff, List.all_eq_true]
    simp only [inBareName_iff]
    constructor
    · rintro ⟨hc, hcs⟩
      exact ⟨c, cs, rfl, hc, hcs⟩
    · rintro ⟨d, ds, hds, hd, hall⟩
      obtain ⟨rfl, rfl⟩ := List.cons.inj hds
      exact ⟨hd, hall⟩

theorem isReserved_eq_false_iff {name : String} : isReserved name = false ↔ IsUnreserved name := by
  rw [isReserved, List.any_eq_false, IsUnreserved]
  simp only [Bool.not_eq_true]

theorem IsBareName.inBareName {name : String} (h : IsBareName name) :
    ∀ c ∈ name.toList, InBareName c := by
  obtain ⟨c, cs, hname, hc, hcs⟩ := h
  intro d hd
  rw [hname] at hd
  rcases List.mem_cons.mp hd with rfl | hd
  · exact .inl hc
  · exact hcs d hd

/-- A bare name starts with none of the characters that cannot be in one. -/
theorem IsBareName.head?_append_ne {name : String} (h : IsBareName name) {q : Char}
    (hq : ¬InBareName q) (rest : List Char) : (name.toList ++ rest).head? ≠ some q := by
  obtain ⟨c, cs, hname, hc, -⟩ := h
  rw [hname]
  rintro ⟨⟩
  exact hq (.inl hc)

/-- A bare name ends where something else follows. -/
theorem IsBareName.append_inj {a b : String} (ha : IsBareName a) (hb : IsBareName b)
    {rest rest' : List Char} (hrest : ∀ c, rest.head? = some c → ¬InBareName c)
    (hrest' : ∀ c, rest'.head? = some c → ¬InBareName c)
    (h : a.toList ++ rest = b.toList ++ rest') : a = b ∧ rest = rest' := by
  obtain ⟨hab, hrests⟩ := Text.append_inj_of_stops ha.inBareName hb.inBareName hrest hrest' h
  exact ⟨String.toList_inj.mp hab, hrests⟩

namespace Engine

variable {e : Engine} {name : String}

/-! ### Reading -/

/-- Whether a text starts with the quote character. -/
def startsQuoted (e : Engine) (text : String) : Bool := text.toList.head? = some e.quoteChar

/-- What an engine **reads** in the text of a name. Text that starts with the quote character
loses its first and its last character, and pairs of quote characters in it count as one. Any
other text is folded. -/
def read (e : Engine) (text : String) : String :=
  if e.startsQuoted text then
    String.ofList (Text.undoubled e.quoteChar text.toList.tail.dropLast)
  else e.casing.fold text

@[simp]
theorem startsQuoted_quote (e : Engine) (name : String) : e.startsQuoted (e.quote name) = true := by
  simp [startsQuoted, Text.delimited]

/-- Quotes preserve every name. -/
theorem read_quote (e : Engine) (name : String) : e.read (e.quote name) = name := by
  have hinside : (e.quote name).toList.tail.dropLast = Text.doubled e.quoteChar name.toList := by
    simp [Text.delimited]
  rw [read, if_pos (startsQuoted_quote e name), hinside, Text.undoubled_doubled,
    String.ofList_toList]

/-! ### Names that are quoted where they have to be -/

theorem needsQuoting_eq_false_iff :
    e.needsQuoting name = false
      ↔ IsBareName name ∧ IsUnreserved name ∧ e.casing.fold name = name := by
  rw [needsQuoting, mustQuote, Bool.or_eq_false_iff, Bool.or_eq_false_iff, Bool.not_eq_false',
    isPlainName_iff, isReserved_eq_false_iff, bne_eq_false_iff_eq, and_assoc]

theorem quoteIfNeeded_of_needsQuoting (h : e.needsQuoting name = true) :
    e.quoteIfNeeded name = e.quote name := if_pos h

theorem quoteIfNeeded_of_not_needsQuoting (h : e.needsQuoting name = false) :
    e.quoteIfNeeded name = name := if_neg (Bool.eq_false_iff.mp h)

section Quotes

variable (hquote : ¬InBareName e.quoteChar)

include hquote

theorem startsQuoted_of_isBareName (h : IsBareName name) : e.startsQuoted name = false := by
  have hhead := h.head?_append_ne hquote []
  rw [List.append_nil] at hhead
  exact decide_eq_false hhead

/-- A written name is in quotes when it needs them. -/
theorem startsQuoted_quoteIfNeeded (name : String) :
    e.startsQuoted (e.quoteIfNeeded name) = e.needsQuoting name := by
  cases h : e.needsQuoting name with
  | true => rw [quoteIfNeeded_of_needsQuoting h, startsQuoted_quote]
  | false =>
    rw [quoteIfNeeded_of_not_needsQuoting h]
    exact startsQuoted_of_isBareName hquote (needsQuoting_eq_false_iff.mp h).1

/-- A name is written without quotes when these make no difference. -/
theorem startsQuoted_quoteIfNeeded_eq_false_iff :
    e.startsQuoted (e.quoteIfNeeded name) = false
      ↔ IsBareName name ∧ IsUnreserved name ∧ e.casing.fold name = name := by
  rw [startsQuoted_quoteIfNeeded hquote, needsQuoting_eq_false_iff]

/-- What is read is the name that was written. -/
theorem read_quoteIfNeeded (name : String) : e.read (e.quoteIfNeeded name) = name := by
  cases h : e.needsQuoting name with
  | true => rw [quoteIfNeeded_of_needsQuoting h, read_quote]
  | false =>
    obtain ⟨hbare, -, hfold⟩ := needsQuoting_eq_false_iff.mp h
    have hplain := startsQuoted_of_isBareName hquote hbare
    rw [quoteIfNeeded_of_not_needsQuoting h, read, if_neg (Bool.eq_false_iff.mp hplain), hfold]

/-- A written name can be told from what follows it. -/
theorem quoteIfNeeded_append_inj {a b : String} {rest rest' : List Char}
    (hrest : ∀ c, rest.head? = some c → ¬InBareName c ∧ c ≠ e.quoteChar)
    (hrest' : ∀ c, rest'.head? = some c → ¬InBareName c ∧ c ≠ e.quoteChar)
    (h : (e.quoteIfNeeded a).toList ++ rest = (e.quoteIfNeeded b).toList ++ rest') :
    a = b ∧ rest = rest' := by
  have hbare : ∀ {name : String}, e.needsQuoting name = false → IsBareName name := fun hname =>
    (needsQuoting_eq_false_iff.mp hname).1
  have hquoted : ∀ (name : String) (l : List Char),
      (Text.delimited e.quoteChar name.toList ++ l).head? = some e.quoteChar := fun _ _ => rfl
  -- a quoted name and a bare one differ in their first character
  cases ha : e.needsQuoting a with
  | true =>
    rw [quoteIfNeeded_of_needsQuoting ha, toList_quote] at h
    cases hb : e.needsQuoting b with
    | true =>
      rw [quoteIfNeeded_of_needsQuoting hb, toList_quote] at h
      obtain ⟨hname, hrests⟩ := Text.delimited_append_inj (fun hq => (hrest _ hq).2 rfl)
        (fun hq => (hrest' _ hq).2 rfl) h
      exact ⟨String.toList_inj.mp hname, hrests⟩
    | false =>
      rw [quoteIfNeeded_of_not_needsQuoting hb] at h
      exact absurd (h ▸ hquoted a rest) ((hbare hb).head?_append_ne hquote rest')
  | false =>
    rw [quoteIfNeeded_of_not_needsQuoting ha] at h
    cases hb : e.needsQuoting b with
    | true =>
      rw [quoteIfNeeded_of_needsQuoting hb, toList_quote] at h
      exact absurd (h ▸ hquoted b rest') ((hbare ha).head?_append_ne hquote rest)
    | false =>
      rw [quoteIfNeeded_of_not_needsQuoting hb] at h
      exact (hbare ha).append_inj (hbare hb) (fun c hc => (hrest c hc).1)
        (fun c hc => (hrest' c hc).1) h

end Quotes

end Engine

/-! ### The engines that a project can name -/

theorem Dialect.not_inBareName_quoteChar (d : Dialect) : ¬InBareName d.engine.quoteChar := by
  cases d <;> decide

/-- **The column is named.** What an engine reads in the written name of a column is the name of
the column, letter for letter. Where the name is written without quotes it is a bare name and no
reserved word, so that nothing else can be read in it. -/
theorem quotedName_names_column (d : Dialect) (op : Operation) :
    d.engine.read (op.quotedName d.engine) = op.column.name
      ∧ (d.engine.startsQuoted (op.quotedName d.engine) = false →
        IsBareName (op.quotedName d.engine) ∧ IsUnreserved (op.quotedName d.engine)) := by
  have hquote := d.not_inBareName_quoteChar
  refine ⟨Engine.read_quoteIfNeeded hquote op.column.name, fun hbare => ?_⟩
  rw [Operation.quotedName] at hbare ⊢
  have hneeds : d.engine.needsQuoting op.column.name = false := by
    rw [← Engine.startsQuoted_quoteIfNeeded hquote, hbare]
  rw [Engine.quoteIfNeeded_of_not_needsQuoting hneeds]
  obtain ⟨hname, hunreserved, -⟩ := Engine.needsQuoting_eq_false_iff.mp hneeds
  exact ⟨hname, hunreserved⟩

/-- The addition of a column whose name begins with a reserved word. -/
def addOrderDate : Operation := .add ⟨"order_date_2", "date", 4⟩

theorem quotedName_names_column_order_date :
    Dialect.athena.engine.startsQuoted (addOrderDate.quotedName Dialect.athena.engine) = false
      ∧ IsBareName (addOrderDate.quotedName Dialect.athena.engine)
      ∧ IsUnreserved (addOrderDate.quotedName Dialect.athena.engine) := by
  have hbare : Dialect.athena.engine.startsQuoted
      (addOrderDate.quotedName Dialect.athena.engine) = false := by decide +kernel
  exact ⟨hbare, (quotedName_names_column .athena addOrderDate).2 hbare⟩

end SchemaDrift
