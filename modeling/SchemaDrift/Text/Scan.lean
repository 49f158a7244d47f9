/-!
# Scanning a text from the front

A `Scan α` takes characters from the front of a list and gives an `α` and the rest, or fails.
Scans are put together with `do`, with `<|>` (which starts again where the first alternative
started), and with `many`, which repeats a scan while it succeeds and is bounded by the number
of characters left.
-/

namespace SchemaDrift.Text

/-- A scan of a list of characters. -/
abbrev Scan (α : Type) := StateT (List Char) Option α

namespace Scan

variable {α β : Type}

/-- Take one character that passes a test. -/
def satisfy (p : Char → Bool) : Scan Char := fun
  | c :: cs => if p c then some (c, cs) else none
  | [] => none

/-- Take one given character. -/
def char (c : Char) : Scan Unit := do
  let _ ← satisfy (· == c)

/-- Take given characters in order. -/
def literal (expected : String) : Scan Unit := expected.toList.forM char

/-- Take the longest run of characters that pass a test. -/
def takeWhile (p : Char → Bool) : Scan (List Char) := fun cs =>
  some (cs.takeWhile p, cs.dropWhile p)

/-- Take the longest run of characters that pass a test, which may not be empty. -/
def takeWhile1 (p : Char → Bool) : Scan (List Char) := do
  let c ← satisfy p
  return c :: (← takeWhile p)

/-- The next character, which is not taken. -/
def peek? : Scan (Option Char) := fun cs => some (cs.head?, cs)

/-- Succeed at the end of the text only. -/
def atEnd : Scan Unit := fun
  | [] => some ((), [])
  | _ :: _ => none

/-- Try a scan; when it fails, nothing is taken. -/
def option (p : Scan α) : Scan (Option α) := fun cs =>
  match p cs with
  | some (a, rest) => some (some a, rest)
  | none => some (none, cs)

/-- Repeat a scan while it succeeds, at most `bound` times. -/
def manyUpTo (p : Scan α) : Nat → Scan (List α)
  | 0 => pure []
  | bound + 1 => do
    match ← option p with
    | some a => return a :: (← manyUpTo p bound)
    | none => return []

/-- Repeat a scan that takes at least one character, while it succeeds. -/
def many (p : Scan α) : Scan (List α) := fun cs => manyUpTo p cs.length cs

/-- Items with a separator between two of them. -/
def separated (item : Scan α) (separator : Scan β) : Scan (List α) := do
  match ← option item with
  | some a => return a :: (← many (separator *> item))
  | none => return []

/-- Scan a whole text. -/
def run (p : Scan α) (s : String) : Option α := do
  let (a, _) ← (p <* atEnd) s.toList
  return a

/-! ### Laws -/

theorem bind_apply (p : Scan α) (f : α → Scan β) (cs : List Char) :
    (p >>= f) cs = (p cs).bind fun r => f r.1 r.2 := rfl

theorem seqLeft_apply (p : Scan α) (separator : Scan β) (cs : List Char) :
    (p <* separator) cs
      = (p cs).bind fun r => (separator r.2).bind fun t => some (r.1, t.2) := rfl

@[simp]
theorem char_cons_self (c : Char) (cs : List Char) : char c (c :: cs) = some ((), cs) := by
  have htaken : satisfy (· == c) (c :: cs) = some (c, cs) := if_pos (beq_self_eq_true c)
  rw [char, bind_apply, htaken]
  rfl

/-- Given characters are taken where they stand. -/
theorem literal_append (expected : String) (rest : List Char) :
    literal expected (expected.toList ++ rest) = some ((), rest) := by
  rw [literal]
  induction expected.toList with
  | nil => rfl
  | cons c cs ih =>
    have hstep : (c :: cs).forM char = char c >>= fun _ => cs.forM char := rfl
    rw [hstep, bind_apply, List.cons_append, char_cons_self]
    exact ih

/-- After given characters the scan goes on behind them. -/
theorem literal_bind (expected : String) (p : Unit → Scan α) (rest : List Char) :
    (literal expected >>= p) (expected.toList ++ rest) = p () rest := by
  rw [bind_apply, literal_append, Option.bind_some]

/-- A scan that takes everything scans the whole text. -/
theorem run_eq_some {p : Scan α} {s : String} {a : α} (h : p s.toList = some (a, [])) :
    p.run s = some a := by
  have hend : (p <* atEnd) s.toList = some (a, []) := by
    rw [seqLeft_apply, h]
    rfl
  rw [run, hend]
  rfl

end Scan

end SchemaDrift.Text
