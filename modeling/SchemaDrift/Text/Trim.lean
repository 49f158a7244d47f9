/-!
# Trimming both ends of a list

`trimBoth p l` drops the longest run of elements with `p` at the front of `l` and the longest
such run at its back; what lies between is kept as it is. Blank trimming and the removal of
quote characters are both instances of it.

## Main laws

* `trimBoth_sublist`: nothing is added or reordered.
* `trimBoth_of_ends`: a list whose first and last elements fail `p` is not changed.
* `head?_trimBoth_ne`, `getLast?_trimBoth_ne`: the result is such a list.
* `trimBoth_eq_nil_iff`: nothing is left exactly when every element has `p`.
* `trimBoth_between`: elements with `p` that are put at both ends make no difference.
-/

namespace SchemaDrift.Text

universe u

variable {α : Type u}

/-- Drop the elements with `p` at both ends. -/
def trimBoth (p : α → Bool) (l : List α) : List α :=
  ((l.dropWhile p).reverse.dropWhile p).reverse

@[simp] theorem trimBoth_nil (p : α → Bool) : trimBoth p [] = [] := rfl

theorem trimBoth_sublist (p : α → Bool) (l : List α) : (trimBoth p l).Sublist l := by
  refine List.Sublist.trans ?_ (List.dropWhile_sublist p)
  rw [trimBoth, List.reverse_sublist.symm, List.reverse_reverse]
  exact List.dropWhile_sublist p

/-- What `dropWhile` leaves does not start with an element that has `p`. -/
theorem head?_dropWhile_ne (p : α → Bool) (l : List α) {a : α} (h : p a = true) :
    (l.dropWhile p).head? ≠ some a := by
  induction l with
  | nil => simp
  | cons b l ih =>
    by_cases hb : p b = true
    · simpa [List.dropWhile_cons, hb] using ih
    · simp only [List.dropWhile_cons, hb, Bool.false_eq_true, if_false, List.head?_cons]
      rintro ⟨rfl⟩
      exact hb h

/-- A list whose two ends fail `p` is left as it is. -/
theorem trimBoth_of_ends {p : α → Bool} {l : List α} (hd : ∀ a, l.head? = some a → p a = false)
    (hl : ∀ a, l.getLast? = some a → p a = false) : trimBoth p l = l := by
  have front : ∀ {m : List α}, (∀ a, m.head? = some a → p a = false) → m.dropWhile p = m := by
    intro m hm
    cases m with
    | nil => rfl
    | cons a m => simp [hm a rfl]
  rw [trimBoth, front hd, front (by simpa using hl), List.reverse_reverse]

/-- What is left does not end with an element that has `p`. -/
theorem getLast?_trimBoth_ne (p : α → Bool) (l : List α) {a : α} (h : p a = true) :
    (trimBoth p l).getLast? ≠ some a := by
  rw [trimBoth, List.getLast?_reverse]
  exact head?_dropWhile_ne p _ h

/-- What is left does not start with an element that has `p`. -/
theorem head?_trimBoth_ne (p : α → Bool) (l : List α) {a : α} (h : p a = true) :
    (trimBoth p l).head? ≠ some a := by
  have hprefix : trimBoth p l <+: l.dropWhile p := by
    rw [← List.reverse_suffix, trimBoth, List.reverse_reverse]
    exact List.dropWhile_suffix p
  intro hhead
  obtain ⟨r, hr⟩ := List.head?_eq_some_iff.mp hhead
  obtain ⟨t, ht⟩ := hprefix
  refine head?_dropWhile_ne p l h ?_
  rw [← ht, hr, List.cons_append, List.head?_cons]

theorem dropWhile_eq_nil_iff (p : α → Bool) (l : List α) :
    l.dropWhile p = [] ↔ ∀ a ∈ l, p a = true := by
  induction l with
  | nil => simp
  | cons a l ih => by_cases ha : p a = true <;> simp [ha, ih]

/-- Nothing is left exactly when every element has `p`. -/
theorem trimBoth_eq_nil_iff {p : α → Bool} {l : List α} :
    trimBoth p l = [] ↔ ∀ a ∈ l, p a = true := by
  rw [trimBoth, List.reverse_eq_nil_iff, dropWhile_eq_nil_iff]
  refine ⟨fun h => ?_, fun h a ha => ?_⟩
  · rw [← dropWhile_eq_nil_iff]
    rcases hl : l.dropWhile p with _ | ⟨a, r⟩
    · rfl
    · exact absurd (by rw [hl]; rfl) (head?_dropWhile_ne p l (h a (by simp [hl])))
  · rw [List.mem_reverse] at ha
    exact h a ((List.dropWhile_sublist p).subset ha)

/-- Elements with `p` at both ends are dropped before all else. -/
theorem trimBoth_between {p : α → Bool} {a b : α} (ha : p a = true) (hb : p b = true)
    (l : List α) : trimBoth p (a :: l ++ [b]) = trimBoth p l := by
  rw [trimBoth, List.cons_append, List.dropWhile_cons_of_pos ha, List.dropWhile_append]
  by_cases hl : l.dropWhile p = []
  · simp [trimBoth, hl, hb]
  · have hne : (l.dropWhile p).isEmpty = false := List.isEmpty_eq_false_iff.mpr hl
    rw [hne, if_neg Bool.false_ne_true, List.reverse_append, List.reverse_singleton,
      List.singleton_append, List.dropWhile_cons_of_pos hb, trimBoth]

end SchemaDrift.Text
