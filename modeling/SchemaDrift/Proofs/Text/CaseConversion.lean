import Mathlib.Data.List.Basic
import SchemaDrift.Text.CaseMap

/-!
# What case conversion leaves alone

A conversion is given by a table: expansions, and runs of code points that are shifted. A table is
**settled** when it changes no code point that it yields; then converting twice is converting once.
Both tables are settled. That is a fact about some thousand code points, so they are held as the
bits of a number, and two sets of code points are compared in one step.

* `upper_upper`, `lower_lower`: a converted text is not changed by the same conversion. For lower
  case this includes the capital sigma, whose two lower forms both stay as they are.
* `IsCaseless`: a character that comes of itself and of nothing else, such as a quotation mark or
  a blank. `isCaseless_of_areCaseless` reads this off the tables.
* `InBlocks`: a converted text has a block of characters for each character, in order; so it begins
  or ends with a caseless character exactly when the text does, and has it as often.
-/

namespace SchemaDrift.Text

/-! ### Sets of code points -/

/-- A set of code points, as the number that has these bits. -/
def codeSet (codes : List Nat) : Nat := codes.foldr (fun n set => 1 <<< n ||| set) 0

theorem testBit_codeSet {codes : List Nat} {n : Nat} :
    (codeSet codes).testBit n = true ↔ n ∈ codes := by
  induction codes with
  | nil => simp [codeSet]
  | cons m codes ih =>
    have hcons : codeSet (m :: codes) = 1 <<< m ||| codeSet codes := rfl
    rw [hcons, Nat.testBit_or, Bool.or_eq_true, ih, Nat.one_shiftLeft, Nat.testBit_two_pow,
      decide_eq_true_eq, List.mem_cons, eq_comm]

/-- Whether two lists of code points have none in common. -/
def areApart (codes codes' : List Nat) : Bool := codeSet codes &&& codeSet codes' = 0

theorem not_mem_of_areApart {codes codes' : List Nat} {n : Nat}
    (h : areApart codes codes' = true) (hn : n ∈ codes) : n ∉ codes' := by
  intro hn'
  have hbit : (codeSet codes &&& codeSet codes').testBit n = true := by
    rw [Nat.testBit_and, testBit_codeSet.mpr hn, testBit_codeSet.mpr hn', Bool.and_self]
  rw [of_decide_eq_true h, Nat.zero_testBit] at hbit
  cases hbit

/-! ### Tables -/

namespace CaseRun

variable {r : CaseRun} {n m : Nat}

/-- How many code points a run changes. -/
def count (r : CaseRun) : Nat := (r.last - r.first) / r.step + 1

/-- The code points that a run changes. -/
def sources (r : CaseRun) : List Nat := List.range' r.first r.count r.step

/-- The code points that a run yields. -/
def images (r : CaseRun) : List Nat := List.range' r.target r.count r.step

/-- A run sends each of its code points to the one at the same place. -/
theorem mem_of_image? (h : r.image? n = some m) : n ∈ r.sources ∧ m ∈ r.images := by
  rw [image?] at h
  split at h
  · next hn =>
    obtain ⟨hfirst, hlast, hstep⟩ := hn
    obtain rfl := Option.some.inj h
    have hshift : r.step * ((n - r.first) / r.step) = n - r.first :=
      Nat.mul_div_cancel' (Nat.dvd_of_mod_eq_zero hstep)
    have hcount : (n - r.first) / r.step < r.count :=
      Nat.lt_succ_of_le (Nat.div_le_div_right (Nat.sub_le_sub_right hlast r.first))
    refine ⟨List.mem_range'.mpr ⟨_, hcount, ?_⟩, List.mem_range'.mpr ⟨_, hcount, ?_⟩⟩
    · rw [hshift]
      omega
    · rw [hshift]
  · cases h

end CaseRun

/-- The code points that a table changes. -/
def changed (expansions : List (Nat × List Nat)) (runs : List CaseRun) : List Nat :=
  runs.flatMap CaseRun.sources ++ expansions.map (·.1)

/-- The code points that a table **yields** for those that it changes. -/
def yielded (expansions : List (Nat × List Nat)) (runs : List CaseRun) : List Nat :=
  runs.flatMap CaseRun.images ++ expansions.flatMap (·.2)

section Tables

variable {expansions : List (Nat × List Nat)} {runs : List CaseRun} {n m : Nat}

theorem mem_of_lookup {ns : List Nat} (h : expansions.lookup n = some ns) :
    (n, ns) ∈ expansions := by
  obtain ⟨front, back, hsplit, -⟩ := List.lookup_eq_some_iff.mp h
  rw [hsplit]
  exact List.mem_append_right front List.mem_cons_self

/-- A code point that is not changed is left as it is. -/
theorem convert_of_not_mem_changed (h : n ∉ changed expansions runs) :
    convert expansions runs n = [n] := by
  have hlookup : expansions.lookup n = none := by
    refine Option.eq_none_iff_forall_ne_some.mpr fun ns hns => h ?_
    exact List.mem_append_right _ (List.mem_map.mpr ⟨_, mem_of_lookup hns, rfl⟩)
  have hruns : runs.findSome? (·.image? n) = none := by
    refine List.findSome?_eq_none_iff.mpr fun r hr => ?_
    refine Option.eq_none_iff_forall_ne_some.mpr fun m hm => h ?_
    exact List.mem_append_left _ (List.mem_flatMap.mpr ⟨r, hr, (CaseRun.mem_of_image? hm).1⟩)
  rw [convert, hlookup, hruns, Option.getD_none]

/-- A code point is left as it is, or all that becomes of it is yielded. -/
theorem convert_eq_self_or_subset (expansions : List (Nat × List Nat)) (runs : List CaseRun)
    (n : Nat) :
    convert expansions runs n = [n] ∨ convert expansions runs n ⊆ yielded expansions runs := by
  rw [convert]
  cases hlookup : expansions.lookup n with
  | some ns =>
    refine .inr fun m hm => List.mem_append_right _ ?_
    exact List.mem_flatMap.mpr ⟨_, mem_of_lookup hlookup, hm⟩
  | none =>
    cases hrun : runs.findSome? (·.image? n) with
    | none => exact .inl rfl
    | some k =>
      obtain ⟨r, hr, himage⟩ := List.exists_of_findSome?_eq_some hrun
      refine .inr fun m hm => List.mem_append_left _ ?_
      rw [List.mem_singleton.mp hm, Option.getD_some]
      exact List.mem_flatMap.mpr ⟨r, hr, (CaseRun.mem_of_image? himage).2⟩

theorem convert_ne_nil (h : ∀ e ∈ expansions, e.2 ≠ []) (n : Nat) :
    convert expansions runs n ≠ [] := by
  rw [convert]
  cases hlookup : expansions.lookup n with
  | some ns => exact h _ (mem_of_lookup hlookup)
  | none => exact List.cons_ne_nil _ _

/-- A **settled** table changes no code point that it yields, makes characters of characters, and
loses none. -/
structure IsSettled (expansions : List (Nat × List Nat)) (runs : List CaseRun) : Prop where
  apart : areApart (yielded expansions runs) (changed expansions runs) = true
  valid : ∀ m ∈ yielded expansions runs, m.isValidChar
  ne_nil : ∀ e ∈ expansions, e.2 ≠ []

/-- What becomes of a character under a table. -/
def convertChar (expansions : List (Nat × List Nat)) (runs : List CaseRun) (c : Char) :
    List Char :=
  (convert expansions runs c.toNat).map Char.ofNat

theorem convertChar_of_convert {c : Char} (h : convert expansions runs c.toNat = [c.toNat]) :
    convertChar expansions runs c = [c] := by
  rw [convertChar, h, List.map_singleton, Char.ofNat_toNat]

namespace IsSettled

variable (h : IsSettled expansions runs) {c d : Char}

include h

theorem convertChar_ne_nil (c : Char) : convertChar expansions runs c ≠ [] := by
  rw [convertChar, ne_eq, List.map_eq_nil_iff]
  exact convert_ne_nil h.ne_nil c.toNat

theorem eq_or_toNat_mem_yielded (hd : d ∈ convertChar expansions runs c) :
    convertChar expansions runs c = [c] ∧ d = c ∨ d.toNat ∈ yielded expansions runs := by
  rcases convert_eq_self_or_subset expansions runs c.toNat with hself | hyielded
  · have hc := convertChar_of_convert hself
    rw [hc] at hd
    exact .inl ⟨hc, List.mem_singleton.mp hd⟩
  · obtain ⟨m, hm, rfl⟩ := List.mem_map.mp hd
    have hvalid : (Char.ofNat m).toNat = m := by
      rw [Char.ofNat, dif_pos (h.valid m (hyielded hm))]
      rfl
    exact .inr (hvalid.symm ▸ hyielded hm)

/-- **What becomes of a character is left as it is.** -/
theorem convertChar_of_mem (hd : d ∈ convertChar expansions runs c) :
    convertChar expansions runs d = [d] := by
  rcases h.eq_or_toNat_mem_yielded hd with ⟨hc, rfl⟩ | hyielded
  · exact hc
  · exact convertChar_of_convert (convert_of_not_mem_changed (not_mem_of_areApart h.apart hyielded))

/-- A character that is neither changed nor yielded comes of itself only. -/
theorem mem_convertChar_iff (hchanged : d.toNat ∉ changed expansions runs)
    (hyielded : d.toNat ∉ yielded expansions runs) :
    d ∈ convertChar expansions runs c ↔ c = d := by
  constructor
  · intro hd
    rcases h.eq_or_toNat_mem_yielded hd with ⟨-, rfl⟩ | hmem
    · rfl
    · exact absurd hmem hyielded
  · rintro rfl
    rw [convertChar_of_convert (convert_of_not_mem_changed hchanged)]
    exact List.mem_singleton_self c

end IsSettled

end Tables

theorem isSettled_upper : IsSettled upperExpansions upperRuns where
  apart := by decide +kernel
  valid := by decide +kernel
  ne_nil := by decide +kernel

theorem isSettled_lower : IsSettled lowerExpansions lowerRuns where
  apart := by decide +kernel
  valid := by decide +kernel
  ne_nil := by decide +kernel

/-! ### Caseless characters -/

/-- A **caseless** character comes of itself and of no other character. -/
structure IsCaseless (q : Char) : Prop where
  mem_upperChar_iff : ∀ {c}, q ∈ upperChar c ↔ c = q
  mem_lowerChar_iff : ∀ {c}, q ∈ lowerChar c ↔ c = q

/-- Whether no conversion changes or yields one of some code points. -/
def areCaseless (codes : List Nat) : Bool :=
  areApart codes (changed upperExpansions upperRuns)
    && areApart codes (yielded upperExpansions upperRuns)
    && areApart codes (changed lowerExpansions lowerRuns)
    && areApart codes (yielded lowerExpansions lowerRuns)

theorem isCaseless_of_areCaseless {codes : List Nat} {q : Char} (h : areCaseless codes = true)
    (hq : q.toNat ∈ codes) : IsCaseless q := by
  simp only [areCaseless, Bool.and_eq_true] at h
  obtain ⟨⟨⟨hupper, hupper'⟩, hlower⟩, hlower'⟩ := h
  exact ⟨isSettled_upper.mem_convertChar_iff (not_mem_of_areApart hupper hq)
      (not_mem_of_areApart hupper' hq),
    isSettled_lower.mem_convertChar_iff (not_mem_of_areApart hlower hq)
      (not_mem_of_areApart hlower' hq)⟩

namespace IsCaseless

variable {q : Char}

theorem upperChar_eq (h : IsCaseless q) : upperChar q = [q] :=
  isSettled_upper.convertChar_of_mem (h.mem_upperChar_iff.mpr rfl)

theorem lowerChar_eq (h : IsCaseless q) : lowerChar q = [q] :=
  isSettled_lower.convertChar_of_mem (h.mem_lowerChar_iff.mpr rfl)

/-- No sigma is caseless. -/
theorem not_mem_sigmas (h : IsCaseless q) : q ∉ ['Σ', 'σ', 'ς'] := by
  have hupper : upperChar 'σ' ≠ ['σ'] ∧ upperChar 'ς' ≠ ['ς'] := by decide +kernel
  have hlower : lowerChar 'Σ' ≠ ['Σ'] := by decide +kernel
  intro hq
  simp only [List.mem_cons, List.not_mem_nil, or_false] at hq
  rcases hq with rfl | rfl | rfl
  · exact hlower h.lowerChar_eq
  · exact hupper.1 h.upperChar_eq
  · exact hupper.2 h.upperChar_eq

end IsCaseless

/-- The code points of blank characters. -/
def blankCodes : List Nat := blankRanges.flatMap fun r => List.range' r.1 (r.2 + 1 - r.1)

/-- Blank characters are caseless. -/
theorem isCaseless_of_isBlank {c : Char} (h : isBlank c = true) : IsCaseless c := by
  have hblank : areCaseless blankCodes = true := by decide +kernel
  refine isCaseless_of_areCaseless hblank ?_
  obtain ⟨r, hr, hrange⟩ := List.any_eq_true.mp h
  rw [Bool.and_eq_true, decide_eq_true_eq, decide_eq_true_eq] at hrange
  refine List.mem_flatMap.mpr ⟨r, hr, List.mem_range'_1.mpr ⟨hrange.1, ?_⟩⟩
  omega

/-! ### Texts with a block for each character -/

/-- A **block** for a character: it is not empty, and caseless characters are only in blocks of
their own. -/
structure IsBlockOf (c : Char) (block : List Char) : Prop where
  ne_nil : block ≠ []
  eq_of_mem : ∀ q ∈ block, IsCaseless q → q = c
  eq_singleton : IsCaseless c → block = [c]

theorem isBlockOf_self (c : Char) : IsBlockOf c [c] where
  ne_nil := List.cons_ne_nil _ _
  eq_of_mem _ hq _ := List.mem_singleton.mp hq
  eq_singleton _ := rfl

theorem isBlockOf_upperChar (c : Char) : IsBlockOf c (upperChar c) where
  ne_nil := isSettled_upper.convertChar_ne_nil c
  eq_of_mem _ hq hcaseless := (hcaseless.mem_upperChar_iff.mp hq).symm
  eq_singleton := IsCaseless.upperChar_eq

theorem isBlockOf_lowerChar (c : Char) : IsBlockOf c (lowerChar c) where
  ne_nil := isSettled_lower.convertChar_ne_nil c
  eq_of_mem _ hq hcaseless := (hcaseless.mem_lowerChar_iff.mp hq).symm
  eq_singleton := IsCaseless.lowerChar_eq

theorem isBlockOf_sigma {d : Char} (hd : d ∈ ['σ', 'ς']) : IsBlockOf 'Σ' [d] where
  ne_nil := List.cons_ne_nil _ _
  eq_of_mem q hq hcaseless := by
    obtain rfl := List.mem_singleton.mp hq
    exact absurd (List.mem_cons_of_mem _ hd) hcaseless.not_mem_sigmas
  eq_singleton hcaseless := absurd List.mem_cons_self hcaseless.not_mem_sigmas

/-- A text `cs` is **in blocks** in `ds` when `ds` has a block for each of its characters. -/
inductive InBlocks : List Char → List Char → Prop
  | nil : InBlocks [] []
  | cons {c : Char} {block cs ds : List Char} :
    IsBlockOf c block → InBlocks cs ds → InBlocks (c :: cs) (block ++ ds)

namespace InBlocks

variable {cs ds : List Char} {q : Char}

theorem refl (cs : List Char) : InBlocks cs cs := by
  induction cs with
  | nil => exact .nil
  | cons c cs ih => exact .cons (isBlockOf_self c) ih

theorem append {cs' ds' : List Char} (h : InBlocks cs ds) (h' : InBlocks cs' ds') :
    InBlocks (cs ++ cs') (ds ++ ds') := by
  induction h with
  | nil => exact h'
  | cons hblock _ ih =>
    rw [List.append_assoc]
    exact .cons hblock ih

theorem reverse (h : InBlocks cs ds) : InBlocks cs.reverse ds.reverse := by
  induction h with
  | nil => exact .nil
  | @cons c block cs ds hblock _ ih =>
    have hback : IsBlockOf c block.reverse :=
      { ne_nil := List.reverse_ne_nil_iff.mpr hblock.ne_nil
        eq_of_mem := fun q hq => hblock.eq_of_mem q (List.mem_reverse.mp hq)
        eq_singleton := fun hc => by rw [hblock.eq_singleton hc, List.reverse_singleton] }
    have hlast : InBlocks [c] block.reverse := by
      rw [← List.append_nil block.reverse]
      exact .cons hback .nil
    rw [List.reverse_cons, List.reverse_append]
    exact ih.append hlast

theorem eq_singleton (h : InBlocks [q] ds) (hq : IsCaseless q) : ds = [q] := by
  cases h with
  | cons hblock hrest =>
    cases hrest
    rw [hblock.eq_singleton hq, List.append_nil]

/-- It has a caseless character as often as the text. -/
theorem count_eq (h : InBlocks cs ds) (hq : IsCaseless q) : ds.count q = cs.count q := by
  induction h with
  | nil => rfl
  | @cons c block cs ds hblock _ ih =>
    have hcount : block.count q = [c].count q := by
      by_cases hc : c = q
      · subst hc
        rw [hblock.eq_singleton hq]
      · have hother : q ∉ block := fun hmem => hc (hblock.eq_of_mem q hmem hq).symm
        have hne : ¬(c == q) = true := by simpa using hc
        rw [List.count_eq_zero.mpr hother, List.count_singleton, if_neg hne]
    rw [List.count_append, hcount, ih, ← List.count_append, List.singleton_append]

/-- It begins with a caseless character when the text does. -/
theorem head?_eq_some_iff (h : InBlocks cs ds) (hq : IsCaseless q) :
    ds.head? = some q ↔ cs.head? = some q := by
  cases h with
  | nil => exact Iff.rfl
  | @cons c block cs ds hblock _ =>
    obtain ⟨d, rest, rfl⟩ := List.exists_cons_of_ne_nil hblock.ne_nil
    rw [List.cons_append, List.head?_cons, List.head?_cons, Option.some_inj, Option.some_inj]
    constructor
    · rintro rfl
      exact (hblock.eq_of_mem d List.mem_cons_self hq).symm
    · rintro rfl
      exact (List.cons.inj (hblock.eq_singleton hq)).1

/-- It ends with a caseless character when the text does. -/
theorem getLast?_eq_some_iff (h : InBlocks cs ds) (hq : IsCaseless q) :
    ds.getLast? = some q ↔ cs.getLast? = some q := by
  rw [List.getLast?_eq_head?_reverse, List.getLast?_eq_head?_reverse]
  exact h.reverse.head?_eq_some_iff hq

end InBlocks

/-! ### Upper case -/

theorem flatMap_eq_self {f : Char → List Char} {cs : List Char} (h : ∀ c ∈ cs, f c = [c]) :
    cs.flatMap f = cs := by
  rw [List.flatMap_congr h, List.flatMap_singleton']

theorem inBlocks_upper (s : String) : InBlocks s.toList (upper s).toList := by
  rw [upper, String.toList_ofList]
  induction s.toList with
  | nil => exact .nil
  | cons c cs ih => exact .cons (isBlockOf_upperChar c) ih

/-- **A text in upper case is not changed by upper case.** -/
theorem upper_upper (s : String) : upper (upper s) = upper s := by
  have hkept : ∀ c ∈ s.toList.flatMap upperChar, upperChar c = [c] := by
    intro c hc
    obtain ⟨d, -, hd⟩ := List.mem_flatMap.mp hc
    exact isSettled_upper.convertChar_of_mem hd
  rw [upper, upper, String.toList_ofList, flatMap_eq_self hkept]

/-! ### Lower case -/

/-- The lower case of a character between others. -/
def lowerAt (before after : List Char) (c : Char) : List Char :=
  if c = 'Σ' then [if endsWord before after then 'ς' else 'σ'] else lowerChar c

theorem lowerAfter_cons (before : List Char) (c : Char) (cs : List Char) :
    lowerAfter before (c :: cs) = lowerAt before cs c ++ lowerAfter (c :: before) cs := rfl

theorem lowerAt_sigma (before after : List Char) :
    ∃ d ∈ ['σ', 'ς'], lowerAt before after 'Σ' = [d] := by
  refine ⟨_, ?_, if_pos rfl⟩
  split <;> decide

theorem isBlockOf_lowerAt (before after : List Char) (c : Char) :
    IsBlockOf c (lowerAt before after c) := by
  by_cases hc : c = 'Σ'
  · subst hc
    obtain ⟨d, hd, hblock⟩ := lowerAt_sigma before after
    rw [hblock]
    exact isBlockOf_sigma hd
  · rw [lowerAt, if_neg hc]
    exact isBlockOf_lowerChar c

theorem inBlocks_lower (s : String) : InBlocks s.toList (lower s).toList := by
  rw [lower, String.toList_ofList]
  generalize ([] : List Char) = before
  induction s.toList generalizing before with
  | nil => exact .nil
  | cons c cs ih => exact .cons (isBlockOf_lowerAt before cs c) (ih (c :: before))

/-- What becomes of a character is no capital sigma, and left as it is anywhere. -/
theorem lowerChar_of_mem_lowerAt {before after : List Char} {c d : Char}
    (hd : d ∈ lowerAt before after c) : d ≠ 'Σ' ∧ lowerChar d = [d] := by
  have hcapital : lowerChar 'Σ' ≠ ['Σ'] := by decide +kernel
  suffices hkept : lowerChar d = [d] by
    refine ⟨?_, hkept⟩
    rintro rfl
    exact hcapital hkept
  by_cases hc : c = 'Σ'
  · subst hc
    have hsmall : ∀ d ∈ ['σ', 'ς'], lowerChar d = [d] :=
      List.forall_mem_cons.mpr
        ⟨by decide +kernel, List.forall_mem_singleton.mpr (by decide +kernel)⟩
    obtain ⟨d', hd', hblock⟩ := lowerAt_sigma before after
    rw [hblock] at hd
    rw [List.mem_singleton.mp hd]
    exact hsmall d' hd'
  · rw [lowerAt, if_neg hc] at hd
    exact isSettled_lower.convertChar_of_mem hd

theorem lowerAfter_eq_self {before cs : List Char}
    (h : ∀ c ∈ cs, c ≠ 'Σ' ∧ lowerChar c = [c]) : lowerAfter before cs = cs := by
  induction cs generalizing before with
  | nil => rfl
  | cons c cs ih =>
    obtain ⟨hc, hkept⟩ := h c List.mem_cons_self
    rw [lowerAfter_cons, lowerAt, if_neg hc, hkept,
      ih fun d hd => h d (List.mem_cons_of_mem c hd), List.singleton_append]

/-- **A text in lower case is not changed by lower case.** -/
theorem lower_lower (s : String) : lower (lower s) = lower s := by
  have hkept : ∀ (before cs : List Char), ∀ d ∈ lowerAfter before cs,
      d ≠ 'Σ' ∧ lowerChar d = [d] := by
    intro before cs
    induction cs generalizing before with
    | nil => exact fun d hd => absurd hd List.not_mem_nil
    | cons c cs ih =>
      intro d hd
      rw [lowerAfter_cons] at hd
      rcases List.mem_append.mp hd with hd | hd
      · exact lowerChar_of_mem_lowerAt hd
      · exact ih (c :: before) d hd
  rw [lower, lower, String.toList_ofList, lowerAfter_eq_self (hkept [] s.toList)]

example : lower (lower "ΟΔΟΣ ΣΟΦΙΑΣ") = "οδος σοφιας" := by decide +kernel

end SchemaDrift.Text
