import SchemaDrift.Data.Basic
import SchemaDrift.Text.Digits

/-!
# What a JSON numeral means

A numeral without fraction and exponent that fits into 64 bits (signed when negative) is an
integer. Every other numeral is a binary64 number, found in two steps:

1. the digits, point aside, are read into a **significand of 64 bits**; digits that no longer
   fit are dropped, and those dropped before the point are made up for by the exponent;
2. the significand is rounded and scaled by the power of ten (`Binary64.scaled?`).

Minus zero is the number minus zero, not the integer. A numeral whose number is not finite
means nothing.
-/

namespace SchemaDrift.Json

/-- The parts of a numeral: sign, digits before the point, digits after it, and the exponent. -/
structure Numeral where
  negative : Bool
  whole : List Char
  fraction : Option (List Char)
  exponent : Option Int
deriving Repr

namespace Numeral

/-- Significands stay below this bound. -/
def significandBound : Nat := Nat.pow 2 64

/-- Read digits into a significand until one does not fit; with the digits that are left. -/
def absorb (significand : Nat) : List Char → Nat × List Char
  | [] => (significand, [])
  | c :: cs =>
    let next := significand * 10 + (Text.digitValue? c).getD 0
    if next < significandBound then absorb next cs else (significand, c :: cs)

/-- The significand of a numeral and the power of ten that goes with it, exponent aside. -/
def significandAndShift (n : Numeral) : Nat × Int :=
  let (whole, droppedWhole) := absorb 0 n.whole
  let fraction := n.fraction.getD []
  let (significand, dropped) := absorb whole fraction
  (significand, (droppedWhole.length : Int) - ((fraction.length : Int) - dropped.length))

/-- The integer that a numeral writes, if it is one that is kept as an integer. -/
def integer? (n : Numeral) : Option Int :=
  if n.fraction.isSome || n.exponent.isSome then none else
  let magnitude := Text.numberOf 10 n.whole
  if n.negative then
    if 0 < magnitude && magnitude ≤ Nat.pow 2 63 then some (-magnitude) else none
  else if magnitude < significandBound then some magnitude else none

/-- The number that a numeral means. -/
def number? (n : Numeral) : Option Number :=
  match n.integer? with
  | some i => some (.integer i)
  | none =>
    let (significand, shift) := n.significandAndShift
    (Binary64.scaled? n.negative significand (shift + n.exponent.getD 0)).map .float

end Numeral

end SchemaDrift.Json
