/-!
# The words of a command line

A word is a long switch (`--name` or `--name=value`), a cluster of letters that are switches
(`-abc`), the separator `--`, or plain. A hyphen alone is plain, and so is the empty word.

## Main laws

* `of_eq_plain_iff`: plain are the words that do not start with a hyphen, and the hyphen alone.
-/

namespace SchemaDrift.CommandLine

/-- A **word** of a command line. -/
inductive Word where
  | separator
  /-- A long switch and the value that is attached to it. -/
  | long (name : String) (value : Option String)
  | cluster (letters : List Char)
  | plain (text : String)
deriving DecidableEq, Repr

namespace Word

/-- A long switch, from what follows the two hyphens. -/
def ofLong (cs : List Char) : Word :=
  .long (String.ofList (cs.takeWhile (· ≠ '='))) <|
    match cs.dropWhile (· ≠ '=') with
    | [] => none
    | _ :: value => some (String.ofList value)

/-- The word that a text is. -/
def of (s : String) : Word :=
  match s.toList with
  | '-' :: '-' :: cs => if cs.isEmpty then .separator else ofLong cs
  | '-' :: c :: cs => .cluster (c :: cs)
  | _ => .plain s

/-- Plain are the words that do not start with a hyphen, and the hyphen alone. -/
theorem of_eq_plain_iff {s t : String} :
    of s = .plain t ↔ s = t ∧ (s.toList = ['-'] ∨ s.toList.head? ≠ some '-') := by
  rw [of]
  split
  · next cs h =>
    split <;> simp [h, ofLong]
  · next h => simp [h]
  · next h h' =>
    simp only [plain.injEq, iff_self_and]
    rintro rfl
    rcases hs : s.toList with _ | ⟨c, _ | ⟨d, r⟩⟩
    · simp
    · by_cases hc : c = '-' <;> simp [hc]
    · by_cases hc : c = '-'
      · exact absurd (hs.trans (by rw [hc])) (h' d r)
      · simp [hc]

end Word

end SchemaDrift.CommandLine
