import SchemaDrift.Text.Trim

/-!
# Blank characters

A character is **blank** when it has the Unicode property White_Space. `trim` removes blank
characters at both ends of a text, and `isBlankText` says that nothing else is in it.
-/

namespace SchemaDrift.Text

/-- Whether a code point lies in one of some closed ranges. -/
def inRanges (ranges : List (Nat × Nat)) (n : Nat) : Bool :=
  ranges.any fun r => r.1 ≤ n && n ≤ r.2

/-- The code points with the property White_Space. -/
def blankRanges : List (Nat × Nat) :=
  [(0x9, 0xD), (0x20, 0x20), (0x85, 0x85), (0xA0, 0xA0), (0x1680, 0x1680), (0x2000, 0x200A),
   (0x2028, 0x2029), (0x202F, 0x202F), (0x205F, 0x205F), (0x3000, 0x3000)]

/-- A blank character: one with the property White_Space. -/
def isBlank (c : Char) : Bool := inRanges blankRanges c.toNat

/-- A text without the blank characters at its ends. -/
def trim (s : String) : String := String.ofList (trimBoth isBlank s.toList)

/-- Whether a text is empty or holds blank characters only. -/
def isBlankText (s : String) : Bool := s.toList.all isBlank

/-- The blank characters of ASCII text are blank here too. -/
theorem isBlank_of_isWhitespace {c : Char} (h : c.isWhitespace = true) : isBlank c = true := by
  simp only [Char.isWhitespace, Bool.or_eq_true, decide_eq_true_eq] at h
  rcases h with ((rfl | rfl) | rfl) | rfl <;> decide

/-- A text trims to nothing exactly when it is blank. -/
theorem trim_eq_empty_iff (s : String) : trim s = "" ↔ isBlankText s = true := by
  rw [trim, String.ofList_eq_empty_iff, trimBoth_eq_nil_iff, isBlankText, List.all_eq_true]

end SchemaDrift.Text
