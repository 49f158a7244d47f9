import SchemaDrift.Text.CaseTable

/-!
# Full case conversion

`upper` and `lower` are the conversions of the Unicode standard that no locale changes. A
character may become several (`ß` gives `SS`, `İ` gives `i` with a combining dot), and one
character depends on its neighbours: a capital sigma that ends a word becomes `ς`, any other
becomes `σ`.
-/

namespace SchemaDrift.Text

/-- The code points that `n` becomes: its expansion, else its image in a run, else itself. -/
def convert (expansions : List (Nat × List Nat)) (runs : List CaseRun) (n : Nat) : List Nat :=
  match expansions.lookup n with
  | some ns => ns
  | none => [(runs.findSome? (·.image? n)).getD n]

/-- The upper case of one character. -/
def upperChar (c : Char) : List Char :=
  (convert upperExpansions upperRuns c.toNat).map Char.ofNat

/-- The lower case of one character, whatever stands beside it. -/
def lowerChar (c : Char) : List Char :=
  (convert lowerExpansions lowerRuns c.toNat).map Char.ofNat

/-- The upper case of a text. -/
def upper (s : String) : String := String.ofList (s.toList.flatMap upperChar)

/-! ### Lower case with its final sigma -/

/-- Whether a cased character comes first after any number of case-ignorable ones. -/
def startsCased (cs : List Char) : Bool :=
  (cs.dropWhile fun c => inRanges caseIgnorableRanges c.toNat).head?.any fun c =>
    inRanges casedRanges c.toNat

/-- Whether a position is the **end of a word**: a cased character precedes it and none
follows. `before` is what precedes, nearest first. -/
def endsWord (before after : List Char) : Bool := startsCased before && !startsCased after

/-- The lower case of `cs`, which follows the characters of `before` (nearest first). -/
def lowerAfter (before : List Char) : List Char → List Char
  | [] => []
  | c :: cs =>
    (if c = 'Σ' then [if endsWord before cs then 'ς' else 'σ'] else lowerChar c)
      ++ lowerAfter (c :: before) cs

/-- The lower case of a text. -/
def lower (s : String) : String := String.ofList (lowerAfter [] s.toList)

end SchemaDrift.Text
