import SchemaDrift.Identifier.Engine
import SchemaDrift.Identifier.Literal

/-!
# Texts between delimiters

A text is set off from what surrounds it by a delimiter at either end, and every delimiter in it
is **doubled**. Quoted names and text literals are written so, with different delimiters
(`toList_quote`, `toList_textLiteral`).

* `doubled_eq_self_iff`, `trimBoth_doubled`: doubling shows wherever a delimiter is, and commutes
  with the removal of delimiters at the ends.
* `undoubled_doubled`: to read each pair as one gives the text back.
* `upTo?_doubled`: so does reading up to a delimiter that stands alone.
* `delimited_append_inj`: the end of a delimited text is never in doubt. Whatever follows it, as
  long as this does not start with the delimiter, both parts can be told from the whole.
* `dotted_append_inj`: the same for several delimited texts with dots between them.

The condition on what follows is needed, for two delimiters that meet look like one that is
doubled. No condition is put on the text: it may hold delimiters, dots, or be empty.
-/

namespace SchemaDrift

namespace Text

variable {q : Char} {cs ds rest rest' : List Char}

/-! ### Doubled delimiters -/

/-- A text with every delimiter **doubled**. -/
def doubled (q : Char) (cs : List Char) : List Char :=
  cs.flatMap fun c => if c = q then [c, c] else [c]

/-- A text with every pair of delimiters, from the left, read as one. -/
def undoubled (q : Char) : List Char → List Char
  | c :: d :: cs => if c = q ∧ d = q then q :: undoubled q cs else c :: undoubled q (d :: cs)
  | cs => cs

@[simp]
theorem doubled_nil (q : Char) : doubled q [] = [] := rfl

@[simp]
theorem doubled_cons_self (q : Char) (cs : List Char) :
    doubled q (q :: cs) = q :: q :: doubled q cs := by
  simp [doubled]

theorem doubled_cons_of_ne {c : Char} (h : c ≠ q) : doubled q (c :: cs) = c :: doubled q cs := by
  simp [doubled, h]

/-- Without delimiters there is nothing to double. -/
theorem doubled_of_not_mem (h : q ∉ cs) : doubled q cs = cs := by
  induction cs with
  | nil => rfl
  | cons c cs ih =>
    have hc : c ≠ q := Ne.symm (List.ne_of_not_mem_cons h)
    rw [doubled_cons_of_ne hc, ih (List.not_mem_of_not_mem_cons h)]

theorem doubled_append (q : Char) (cs ds : List Char) :
    doubled q (cs ++ ds) = doubled q cs ++ doubled q ds := List.flatMap_append

theorem count_doubled (q : Char) (cs : List Char) : (doubled q cs).count q = 2 * cs.count q := by
  induction cs with
  | nil => rfl
  | cons c cs ih =>
    by_cases hc : c = q
    · subst hc
      rw [doubled_cons_self, List.count_cons_self, List.count_cons_self, List.count_cons_self, ih]
      omega
    · rw [doubled_cons_of_ne hc, List.count_cons_of_ne hc, List.count_cons_of_ne hc, ih]

/-- Only where there are no delimiters does doubling them make no difference. -/
theorem doubled_eq_self_iff : doubled q cs = cs ↔ q ∉ cs := by
  refine ⟨fun h => ?_, doubled_of_not_mem⟩
  have hcount := congrArg (List.count q) h
  rw [count_doubled] at hcount
  exact List.count_eq_zero.mp (by omega)

theorem reverse_doubled (q : Char) (cs : List Char) :
    (doubled q cs).reverse = doubled q cs.reverse := by
  induction cs with
  | nil => rfl
  | cons c cs ih =>
    have hone : (doubled q [c]).reverse = doubled q [c] := by
      by_cases hc : c = q <;> simp [doubled, hc]
    have hcons : doubled q (c :: cs) = doubled q [c] ++ doubled q cs := doubled_append q [c] cs
    rw [hcons, List.reverse_append, ih, hone, List.reverse_cons, doubled_append]

theorem dropWhile_doubled (q : Char) (cs : List Char) :
    (doubled q cs).dropWhile (· == q) = doubled q (cs.dropWhile (· == q)) := by
  induction cs with
  | nil => rfl
  | cons c cs ih =>
    by_cases hc : c = q
    · subst hc
      simpa using ih
    · have hother : (c == q) = false := beq_eq_false_iff_ne.mpr hc
      simp [doubled_cons_of_ne hc, hother]

/-- Delimiters are dropped at both ends, whether they are doubled or not. -/
theorem trimBoth_doubled (q : Char) (cs : List Char) :
    trimBoth (· == q) (doubled q cs) = doubled q (trimBoth (· == q) cs) := by
  rw [trimBoth, dropWhile_doubled, reverse_doubled, dropWhile_doubled, reverse_doubled, trimBoth]

theorem undoubled_cons_of_ne {c : Char} (h : c ≠ q) :
    undoubled q (c :: cs) = c :: undoubled q cs := by
  cases cs with
  | nil => rfl
  | cons d cs => rw [undoubled, if_neg fun hpair => h hpair.1]

/-- Reading pairs of delimiters as one undoes the doubling. -/
theorem undoubled_doubled (q : Char) (cs : List Char) : undoubled q (doubled q cs) = cs := by
  induction cs with
  | nil => rfl
  | cons c cs ih =>
    by_cases hc : c = q
    · subst hc
      rw [doubled_cons_self, undoubled, if_pos ⟨rfl, rfl⟩, ih]
    · rw [doubled_cons_of_ne hc, undoubled_cons_of_ne hc, ih]

/-- Read a text up to the first delimiter that stands alone, with each pair of delimiters before it
read as one. What follows the delimiter is left. -/
def upTo? (q : Char) : List Char → Option (List Char × List Char)
  | [] => none
  | [c] => if c = q then some ([], []) else none
  | c :: d :: cs =>
    if c ≠ q then (upTo? q (d :: cs)).map fun r => (c :: r.1, r.2)
    else if d = q then (upTo? q cs).map fun r => (q :: r.1, r.2)
    else some ([], d :: cs)

theorem upTo?_cons_of_ne {c : Char} (h : c ≠ q) (cs : List Char) :
    upTo? q (c :: cs) = (upTo? q cs).map fun r => (c :: r.1, r.2) := by
  cases cs with
  | nil => simp only [upTo?, if_neg h, Option.map_none]
  | cons d cs => rw [upTo?, if_pos h]

theorem upTo?_cons_self (hrest : rest.head? ≠ some q) : upTo? q (q :: rest) = some ([], rest) := by
  cases rest with
  | nil => rw [upTo?, if_pos rfl]
  | cons d rest =>
    have hd : d ≠ q := fun hd => hrest (congrArg some hd)
    rw [upTo?, if_neg (not_not_intro rfl), if_neg hd]

/-- A doubled text is read up to the delimiter that stands alone behind it. -/
theorem upTo?_doubled (hrest : rest.head? ≠ some q) (cs : List Char) :
    upTo? q (doubled q cs ++ q :: rest) = some (cs, rest) := by
  induction cs with
  | nil => exact upTo?_cons_self hrest
  | cons c cs ih =>
    by_cases hc : c = q
    · subst hc
      rw [doubled_cons_self, List.cons_append, List.cons_append, upTo?, if_neg (not_not_intro rfl),
        if_pos rfl, ih, Option.map_some]
    · rw [doubled_cons_of_ne hc, List.cons_append, upTo?_cons_of_ne hc, ih, Option.map_some]

/-- So a doubled text can be told from what follows it. -/
theorem doubled_append_inj (hrest : rest.head? ≠ some q) (hrest' : rest'.head? ≠ some q)
    (h : doubled q cs ++ q :: rest = doubled q ds ++ q :: rest') : cs = ds ∧ rest = rest' := by
  have hread := congrArg (upTo? q) h
  rw [upTo?_doubled hrest, upTo?_doubled hrest', Option.some.injEq, Prod.mk.injEq] at hread
  exact hread

/-! ### Between delimiters -/

/-- A text **between delimiters**. -/
def delimited (q : Char) (cs : List Char) : List Char := q :: doubled q cs ++ [q]

theorem delimited_append (q : Char) (cs rest : List Char) :
    delimited q cs ++ rest = q :: (doubled q cs ++ q :: rest) := by
  simp [delimited]

/-- A delimited text can be told from what follows it. -/
theorem delimited_append_inj (hrest : rest.head? ≠ some q) (hrest' : rest'.head? ≠ some q)
    (h : delimited q cs ++ rest = delimited q ds ++ rest') : cs = ds ∧ rest = rest' := by
  rw [delimited_append, delimited_append] at h
  exact doubled_append_inj hrest hrest' (List.cons.inj h).2

/-! ### Delimited texts with dots between them -/

/-- Several delimited texts, with a dot between each and the next. -/
def dotted (q : Char) (parts : List (List Char)) : List Char :=
  ['.'].intercalate (parts.map (delimited q))

@[simp]
theorem dotted_singleton (q : Char) (cs : List Char) : dotted q [cs] = delimited q cs :=
  List.intercalate_singleton

theorem dotted_cons_cons (q : Char) (cs ds : List Char) (parts : List (List Char)) :
    dotted q (cs :: ds :: parts) = delimited q cs ++ '.' :: dotted q (ds :: parts) := by
  rw [dotted, List.map_cons, List.map_cons, List.intercalate_cons_cons, dotted, List.map_cons,
    List.append_assoc, List.singleton_append]

/-- Delimited texts with dots between them can be told from each other, and from what follows
when this starts neither with the delimiter nor with a dot. -/
theorem dotted_append_inj {parts parts' : List (List Char)} (hdot : q ≠ '.')
    (hparts : parts ≠ []) (hparts' : parts' ≠ [])
    (hrest : rest.head? ≠ some q ∧ rest.head? ≠ some '.')
    (hrest' : rest'.head? ≠ some q ∧ rest'.head? ≠ some '.')
    (h : dotted q parts ++ rest = dotted q parts' ++ rest') : parts = parts' ∧ rest = rest' := by
  have hnext : ∀ l : List Char, ('.' :: l).head? ≠ some q := by
    rintro l ⟨⟩
    exact hdot rfl
  -- where only one side has another part, what follows the other would start with a dot
  induction parts generalizing parts' with
  | nil => exact absurd rfl hparts
  | cons cs parts ih =>
    obtain ⟨ds, parts', rfl⟩ := List.exists_cons_of_ne_nil hparts'
    cases parts with
    | nil =>
      cases parts' with
      | nil =>
        rw [dotted_singleton, dotted_singleton] at h
        obtain ⟨rfl, hrests⟩ := delimited_append_inj hrest.1 hrest'.1 h
        exact ⟨rfl, hrests⟩
      | cons ds' parts' =>
        rw [dotted_singleton, dotted_cons_cons, List.append_assoc, List.cons_append] at h
        obtain ⟨-, rfl⟩ := delimited_append_inj hrest.1 (hnext _) h
        exact absurd rfl hrest.2
    | cons cs' parts =>
      cases parts' with
      | nil =>
        rw [dotted_singleton, dotted_cons_cons, List.append_assoc, List.cons_append] at h
        obtain ⟨-, rfl⟩ := delimited_append_inj (hnext _) hrest'.1 h
        exact absurd rfl hrest'.2
      | cons ds' parts' =>
        rw [dotted_cons_cons, dotted_cons_cons, List.append_assoc, List.append_assoc,
          List.cons_append, List.cons_append] at h
        obtain ⟨rfl, htail⟩ := delimited_append_inj (hnext _) (hnext _) h
        obtain ⟨hsame, hrests⟩ :=
          ih (List.cons_ne_nil _ _) (List.cons_ne_nil _ _) (List.cons.inj htail).2
        exact ⟨congrArg (cs :: ·) hsame, hrests⟩

end Text

/-! ### Quoted names and text literals -/

@[simp]
theorem Engine.toList_quote (e : Engine) (name : String) :
    (e.quote name).toList = Text.delimited e.quoteChar name.toList :=
  String.toList_ofList

/-- Quoted names with dots between them. -/
theorem Engine.toList_intercalate_quote (e : Engine) (names : List String) :
    (".".intercalate (names.map e.quote)).toList
      = Text.dotted e.quoteChar (names.map String.toList) := by
  rw [String.toList_intercalate, Text.dotted, List.map_map, List.map_map]
  congr 1
  exact List.map_congr_left fun name _ => e.toList_quote name

/-- Quoted names with dots between them can be told from each other and from what follows. -/
theorem Engine.intercalate_quote_append_inj {e : Engine} (hdot : e.quoteChar ≠ '.')
    {names names' : List String} (hnames : names ≠ []) (hnames' : names' ≠ [])
    {rest rest' : List Char}
    (hrest : rest.head? ≠ some e.quoteChar ∧ rest.head? ≠ some '.')
    (hrest' : rest'.head? ≠ some e.quoteChar ∧ rest'.head? ≠ some '.')
    (h : (".".intercalate (names.map e.quote)).toList ++ rest
      = (".".intercalate (names'.map e.quote)).toList ++ rest') :
    names = names' ∧ rest = rest' := by
  rw [e.toList_intercalate_quote, e.toList_intercalate_quote] at h
  obtain ⟨hparts, hrests⟩ := Text.dotted_append_inj hdot (mt List.map_eq_nil_iff.mp hnames)
    (mt List.map_eq_nil_iff.mp hnames') hrest hrest' h
  exact ⟨(List.map_inj_right fun _ _ => String.toList_inj.mp).mp hparts, hrests⟩

@[simp]
theorem toList_textLiteral (s : String) :
    (textLiteral s).toList = Text.delimited '\'' s.toList :=
  String.toList_ofList

end SchemaDrift
