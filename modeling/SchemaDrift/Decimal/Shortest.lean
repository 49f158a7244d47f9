import SchemaDrift.Decimal.Binary64

/-!
# The shortest decimal that reads back

Many decimals round to a given binary64 number: those in an interval around it, whose ends
count exactly when the significand is even. `Binary64.shortest` is a decimal of that interval
with the fewest digits, and among those the nearest to the number (a tie to the even digit).

`Decimal.text` writes a decimal with a point while the point stays near the digits, and with
an exponent otherwise; a `PointRange` says where the change is.
-/

namespace SchemaDrift

/-- A **decimal** `digits · 10 ^ exponent`. -/
structure Decimal where
  digits : Nat
  exponent : Int
deriving DecidableEq, Repr

namespace Decimal

/-- The number of decimal digits of a natural number. -/
def digitCount (n : Nat) : Nat := (Nat.toDigits 10 n).length

/-- Drop trailing zeros into the exponent; `fuel` bounds how many. -/
def dropZeros (fuel : Nat) (d : Decimal) : Decimal :=
  match fuel with
  | 0 => d
  | fuel + 1 =>
    if d.digits % 10 = 0 ∧ d.digits ≠ 0 then dropZeros fuel ⟨d.digits / 10, d.exponent + 1⟩ else d

/-- **Where the point may stand** when no exponent is written: the count of digits before it
lies above `least` and is at most `greatest`. -/
structure PointRange where
  least : Int
  greatest : Int

/-- Decimal digits as text. -/
private def digitText (n : Nat) : String := String.ofList (Nat.toDigits 10 n)

/-- `n` zeros. -/
private def zeros (n : Nat) : String := String.ofList (List.replicate n '0')

/-- A decimal as text. A whole number keeps `.0`; an exponent follows one digit before the
point and always has a sign. -/
def text (range : PointRange) (d : Decimal) : String :=
  let count := digitCount d.digits
  let point := (count : Int) + d.exponent
  if 0 ≤ d.exponent ∧ point ≤ range.greatest then
    digitText d.digits ++ zeros d.exponent.toNat ++ ".0"
  else if 0 < point ∧ point ≤ range.greatest then
    let cs := Nat.toDigits 10 d.digits
    String.ofList (cs.take point.toNat) ++ "." ++ String.ofList (cs.drop point.toNat)
  else if range.least < point ∧ point ≤ 0 then
    "0." ++ zeros (-point).toNat ++ digitText d.digits
  else
    let mantissa := match Nat.toDigits 10 d.digits with
      | [] => ""
      | [c] => String.ofList [c]
      | c :: cs => String.ofList (c :: '.' :: cs)
    let sign := if point - 1 < 0 then "-" else "+"
    mantissa ++ "e" ++ sign ++ digitText (point - 1).natAbs

/-- A decimal is never written as nothing: there is a point in it, or an exponent. -/
theorem text_ne_empty (range : PointRange) (d : Decimal) : d.text range ≠ "" := by
  rw [text]
  repeat' split
  all_goals simp

end Decimal

namespace Binary64

/-- The power of ten at or below `n / d`, for `n` and `d` positive. -/
def decimalOrder (n d : Nat) : Int :=
  if d ≤ n then (Decimal.digitCount (n / d) : Int) - 1
  else -(Decimal.digitCount ((d - 1) / n) : Int)

/-- The best decimal with `count` digits that rounds to `significand · 2 ^ exponent`. -/
def decimalOfLength? (significand : Nat) (exponent : Int) (count : Nat) : Option Decimal :=
  -- all distances are counted in quarters of the last binary place
  let (unit, part) := timesPowerOfTwo 1 (exponent - 2)
  let value := 4 * significand
  let below := if significand = Nat.pow 2 52 ∧ leastExponent < exponent then 1 else 2
  let power := decimalOrder (value * unit) part - count + 1
  let quarters := unit * Nat.pow 10 (-power).toNat
  let decimals := part * Nat.pow 10 power.toNat
  let reads (digits : Nat) : Bool :=
    let least := (value - below) * quarters
    let greatest := (value + 2) * quarters
    if significand % 2 = 0 then least ≤ digits * decimals && digits * decimals ≤ greatest
    else least < digits * decimals && digits * decimals < greatest
  let floor := value * quarters / decimals
  let downwards := value * quarters - floor * decimals
  let upwards := (floor + 1) * decimals - value * quarters
  match reads floor, reads (floor + 1) with
  | true, true =>
    if downwards < upwards ∨ (downwards = upwards ∧ floor % 2 = 0) then some ⟨floor, power⟩
    else some ⟨floor + 1, power⟩
  | true, false => some ⟨floor, power⟩
  | false, true => some ⟨floor + 1, power⟩
  | false, false => none

/-- A decimal with the fewest digits that rounds to the number without its sign. Seventeen
digits always suffice. -/
def shortest (x : Binary64) : Decimal :=
  if x.significand = 0 then ⟨0, 0⟩ else
  let found := (List.range 17).findSome? fun n => decimalOfLength? x.significand x.exponent (n + 1)
  (found.getD ⟨0, 0⟩).dropZeros 17

/-- The text of a number: its shortest decimal, after a minus sign for a negative one. -/
def text (range : Decimal.PointRange) (x : Binary64) : String :=
  (if x.negative then "-" else "") ++ x.shortest.text range

theorem text_ne_empty (range : Decimal.PointRange) (x : Binary64) : x.text range ≠ "" := by
  rw [text, Ne, String.append_eq_empty_iff]
  exact fun h => Decimal.text_ne_empty range x.shortest h.2

end Binary64

end SchemaDrift
