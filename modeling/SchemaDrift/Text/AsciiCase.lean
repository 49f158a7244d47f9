/-!
# Comparison without ASCII case

Keywords, flags and type names are compared **ignoring ASCII case**: the letters `A` to `Z`
count as `a` to `z`, and every other character only as itself.
-/

namespace SchemaDrift.Text

/-- A text with the letters `A` to `Z` replaced by `a` to `z`. -/
def asciiLower (s : String) : String := String.ofList (s.toList.map Char.toLower)

/-- Equality of texts up to the case of ASCII letters. -/
def eqIgnoringCase (a b : String) : Bool := asciiLower a == asciiLower b

theorem eqIgnoringCase_iff {a b : String} :
    eqIgnoringCase a b = true ↔ asciiLower a = asciiLower b := beq_iff_eq

@[simp] theorem eqIgnoringCase_refl (a : String) : eqIgnoringCase a a = true :=
  eqIgnoringCase_iff.mpr rfl

theorem eqIgnoringCase_comm (a b : String) : eqIgnoringCase a b = eqIgnoringCase b a :=
  Bool.beq_comm

end SchemaDrift.Text
