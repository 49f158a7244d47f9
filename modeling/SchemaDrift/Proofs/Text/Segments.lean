import Mathlib.Data.List.Basic

/-!
# Where a text ends, and paths

A text can be told from what follows it when it holds characters of one kind only and what
follows starts with one of another kind (`append_inj_of_stops`). The segments of a path are such
texts, with a slash to follow.

One path **covers** another that is the same, or that goes on from it behind a slash, as a folder
covers what is in it: `a/b` covers `a/b/c`, but not `a/bc`. Below a common root this can be
decided segment by segment (`coversBelow_cons_iff`) as long as no slash is in a segment; of the
last ones, which may hold slashes, one has to cover the other (`coversBelow_toList_iff`).
-/

namespace SchemaDrift

namespace Text

/-- A text that holds one kind of characters can be told from what follows it, if this starts with
another kind or is empty. -/
theorem append_inj_of_stops {p : Char → Prop} [DecidablePred p] {a b rest rest' : List Char}
    (ha : ∀ c ∈ a, p c) (hb : ∀ c ∈ b, p c) (hrest : ∀ c, rest.head? = some c → ¬p c)
    (hrest' : ∀ c, rest'.head? = some c → ¬p c) (h : a ++ rest = b ++ rest') :
    a = b ∧ rest = rest' := by
  have hcut : ∀ {l r : List Char}, (∀ c ∈ l, p c) → (∀ c, r.head? = some c → ¬p c) →
      (l ++ r).takeWhile (p ·) = l := by
    intro l r hl hr
    rw [List.takeWhile_append_of_pos (by simpa using hl)]
    cases r with
    | nil => simp
    | cons c r => rw [List.takeWhile_cons_of_neg (by simpa using hr c rfl), List.append_nil]
  have hab : a = b := by rw [← hcut ha hrest, h, hcut hb hrest']
  subst hab
  exact ⟨rfl, List.append_cancel_left h⟩

/-! ### Paths -/

/-- One path **covers** another that is the same, or that goes on from it behind a slash. -/
def Covers (a b : String) : Prop := a = b ∨ ∃ rest, b = a ++ "/" ++ rest

/-- What can follow a whole path: nothing, or a slash and anything behind it. -/
def GoesOn (rest : List Char) : Prop := ∀ c, rest.head? = some c → c = '/'

/-- Segments, each behind a slash. -/
def behindSlashes (parts : List String) : List Char := parts.flatMap fun part => '/' :: part.toList

/-- Below a common root, one path covers another. -/
def CoversBelow (parts parts' : List String) : Prop :=
  ∃ rest, GoesOn rest ∧ behindSlashes parts' = behindSlashes parts ++ rest

variable {a b : String} {parts parts' : List String} {rest : List Char}

theorem goesOn_nil : GoesOn [] := nofun

theorem covers_iff : Covers a b ↔ ∃ rest, GoesOn rest ∧ b.toList = a.toList ++ rest := by
  constructor
  · rintro (rfl | ⟨rest, rfl⟩)
    · exact ⟨[], goesOn_nil, (List.append_nil _).symm⟩
    · refine ⟨'/' :: rest.toList, ?_, ?_⟩
      · rintro c ⟨⟩
        rfl
      · simp [String.toList_append]
  · rintro ⟨rest, hrest, hb⟩
    cases rest with
    | nil =>
      rw [List.append_nil, String.toList_inj] at hb
      exact .inl hb.symm
    | cons c rest =>
      obtain rfl := hrest c rfl
      refine .inr ⟨String.ofList rest, String.toList_inj.mp ?_⟩
      simp [hb, String.toList_append]

theorem behindSlashes_cons (part : String) (parts : List String) :
    behindSlashes (part :: parts) = '/' :: (part.toList ++ behindSlashes parts) :=
  List.flatMap_cons

theorem toList_intercalate_cons (part : String) (parts : List String) :
    ("/".intercalate (part :: parts)).toList = part.toList ++ behindSlashes parts := by
  induction parts generalizing part with
  | nil => simp [behindSlashes]
  | cons next parts ih =>
    rw [String.intercalate_cons_cons, String.toList_append, ih, behindSlashes_cons,
      String.toList_append, List.append_assoc]
    rfl

/-- Segments behind slashes go on from whatever is before them. -/
theorem goesOn_behindSlashes_append (hrest : GoesOn rest) (parts : List String) :
    GoesOn (behindSlashes parts ++ rest) := by
  cases parts with
  | nil => exact hrest
  | cons part parts =>
    rw [behindSlashes_cons]
    rintro c ⟨⟩
    rfl

theorem goesOn_behindSlashes (parts : List String) : GoesOn (behindSlashes parts) := by
  rw [← List.append_nil (behindSlashes parts)]
  exact goesOn_behindSlashes_append goesOn_nil parts

/-- Paths with a common root, whatever is in it, are compared below it. -/
theorem covers_intercalate_cons_iff (root : String) :
    Covers ("/".intercalate (root :: parts)) ("/".intercalate (root :: parts'))
      ↔ CoversBelow parts parts' := by
  rw [covers_iff, CoversBelow]
  simp only [toList_intercalate_cons, List.append_assoc, List.append_right_inj]

/-- Segments without slashes are compared one by one. -/
theorem coversBelow_cons_iff (ha : '/' ∉ a.toList) (hb : '/' ∉ b.toList) :
    CoversBelow (a :: parts) (b :: parts') ↔ a = b ∧ CoversBelow parts parts' := by
  have hslash : ∀ {s : String}, '/' ∉ s.toList → ∀ c ∈ s.toList, c ≠ '/' := fun hs _ hc heq =>
    hs (heq ▸ hc)
  simp only [CoversBelow, behindSlashes_cons, List.cons_append, List.cons.injEq, true_and,
    List.append_assoc]
  constructor
  · rintro ⟨rest, hrest, h⟩
    -- neither segment goes on in what follows the other, which is nothing or starts with a slash
    obtain ⟨hsame, htail⟩ := append_inj_of_stops (hslash hb) (hslash ha)
      (fun c hc => not_not_intro (goesOn_behindSlashes parts' c hc))
      (fun c hc => not_not_intro (goesOn_behindSlashes_append hrest parts c hc)) h
    exact ⟨(String.toList_inj.mp hsame).symm, rest, hrest, htail⟩
  · rintro ⟨rfl, rest, hrest, htail⟩
    exact ⟨rest, hrest, congrArg (a.toList ++ ·) htail⟩

/-- Last parts, where there are any, may hold slashes. -/
theorem coversBelow_toList_iff {o o' : Option String} :
    CoversBelow o.toList o'.toList ↔ ∀ s ∈ o, ∃ t ∈ o', Covers s t := by
  cases o with
  | none => exact iff_of_true ⟨_, goesOn_behindSlashes o'.toList, rfl⟩ (by simp)
  | some s =>
    cases o' with
    | none => simp [CoversBelow, behindSlashes]
    | some t => simp [CoversBelow, behindSlashes, covers_iff]

end Text

end SchemaDrift
