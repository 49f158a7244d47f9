/-!
# Occurrence of one text in another
-/

namespace SchemaDrift.Text

/-- Whether a part occurs somewhere in a list of characters. -/
def occursIn (part : List Char) : List Char → Bool
  | [] => part.isEmpty
  | c :: cs => part.isPrefixOf (c :: cs) || occursIn part cs

/-- Whether a part occurs somewhere in a text. -/
def mentions (text part : String) : Bool := occursIn part.toList text.toList

/-- A part occurs in a list exactly when the list is something, the part, and something more. -/
theorem occursIn_iff {part cs : List Char} : occursIn part cs = true ↔ part <:+: cs := by
  induction cs with
  | nil => simp [occursIn]
  | cons c cs ih => simp [occursIn, ih, List.infix_cons_iff]

end SchemaDrift.Text
