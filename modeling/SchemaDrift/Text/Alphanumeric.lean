import SchemaDrift.Text.AlphanumericTable
import SchemaDrift.Text.Blank

/-!
# Alphanumeric characters

A character is **alphanumeric** when it is a letter, a digit or a number of any script: when it
has the Unicode property Alphabetic or a general category of numbers.
-/

namespace SchemaDrift.Text

/-- An alphanumeric character. -/
def isAlphanumeric (c : Char) : Bool := inRanges alphanumericRanges c.toNat

/-- A character between the ends of a range that is listed is alphanumeric. -/
private theorem isAlphanumeric_of_mem {c : Char} (first last : Char)
    (hr : (first.toNat, last.toNat) ∈ alphanumericRanges) (h : first ≤ c) (h' : c ≤ last) :
    isAlphanumeric c = true :=
  List.any_eq_true.2 ⟨_, hr, Bool.and_eq_true_iff.2 ⟨decide_eq_true h, decide_eq_true h'⟩⟩

/-- The letters and digits of ASCII text are alphanumeric here too. -/
theorem isAlphanumeric_of_isAlphanum {c : Char} (h : c.isAlphanum = true) :
    isAlphanumeric c = true := by
  have hc : ((c.isUpper || c.isLower) || c.isDigit) = true := h
  simp only [Bool.or_eq_true] at hc
  rcases hc with (hc | hc) | hc
  · have hc : 'A' ≤ c ∧ c ≤ 'Z' := of_decide_eq_true hc
    exact isAlphanumeric_of_mem 'A' 'Z' (.tail _ (.head _)) hc.1 hc.2
  · have hc := Bool.and_eq_true_iff.1 hc
    exact isAlphanumeric_of_mem 'a' 'z' (.tail _ (.tail _ (.head _)))
      (of_decide_eq_true hc.1) (of_decide_eq_true hc.2)
  · have hc := Bool.and_eq_true_iff.1 hc
    exact isAlphanumeric_of_mem '0' '9' (.head _)
      (of_decide_eq_true hc.1) (of_decide_eq_true hc.2)

end SchemaDrift.Text
