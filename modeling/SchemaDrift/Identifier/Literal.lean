/-!
# Text literals in statements

A text is written in a statement between apostrophes, with every apostrophe in it doubled.
-/

namespace SchemaDrift

/-- The characters of a text with every apostrophe doubled. -/
def doubleApostrophes (cs : List Char) : List Char :=
  cs.flatMap fun c => if c = '\'' then [c, c] else [c]

/-- A text as a literal. -/
def textLiteral (s : String) : String :=
  String.ofList ('\'' :: doubleApostrophes s.toList ++ ['\''])

end SchemaDrift
