/-!
# Finite binary64 numbers, exactly

A finite binary64 number is `± significand · 2 ^ exponent`. Rounding and scaling are done in
exact natural-number arithmetic, so that every result is a value a proof can compute:

* `Binary64.nearest?` rounds a quotient to the nearest number, a tie to the even significand.
* `Binary64.ofDecimal?` rounds a decimal once.
* `Binary64.scaled?` is `significand · 10 ^ exponent` with **one rounding for the significand
  and one for each scaling step**, the powers of ten themselves being rounded. For short
  significands and small exponents this is the nearest number; in general it may differ from
  it in the last bit.
-/

namespace SchemaDrift

/-- A **finite binary64 number** `± significand · 2 ^ exponent`. The functions below keep
`significand < 2 ^ 53` and `-1074 ≤ exponent ≤ 971`, with `2 ^ 52 ≤ significand` above the
least exponent. -/
structure Binary64 where
  negative : Bool
  significand : Nat
  exponent : Int
deriving DecidableEq, Repr

namespace Binary64

/-- The least exponent. -/
def leastExponent : Int := -1074

/-- The greatest exponent. -/
def greatestExponent : Int := 971

/-- A signed zero. -/
def zero (negative : Bool) : Binary64 := ⟨negative, 0, leastExponent⟩

/-- The quotient `n / d` rounded to the nearest natural number, a tie to the even one. -/
def roundHalfEven (n d : Nat) : Nat :=
  let q := n / d
  let r := n % d
  if 2 * r < d then q
  else if d < 2 * r then q + 1
  else q + q % 2

/-- `n · 2 ^ e` as a quotient of natural numbers. -/
def timesPowerOfTwo (n : Nat) (e : Int) : Nat × Nat :=
  (n * Nat.pow 2 e.toNat, Nat.pow 2 (-e).toNat)

/-- The nearest number to `± n / d`, a tie going to the even significand; `none` when the
quotient is beyond the greatest finite number. -/
def nearest? (negative : Bool) (n d : Nat) : Option Binary64 :=
  if n = 0 then some (zero negative) else
  let estimate : Int := (n.log2 : Int) - d.log2 - 52
  let fits := Nat.pow 2 52 * d * Nat.pow 2 estimate.toNat ≤ n * Nat.pow 2 (-estimate).toNat
  let exponent := max leastExponent (if fits then estimate else estimate - 1)
  let rounded :=
    roundHalfEven (n * Nat.pow 2 (-exponent).toNat) (d * Nat.pow 2 exponent.toNat)
  let number : Binary64 :=
    if rounded = Nat.pow 2 53 then ⟨negative, Nat.pow 2 52, exponent + 1⟩
    else ⟨negative, rounded, exponent⟩
  if number.exponent ≤ greatestExponent then some number else none

/-- The nearest number to `± significand · 10 ^ exponent`. Numbers that are far too great or far
too small for a binary64 number are told by their number of digits. -/
def ofDecimal? (negative : Bool) (significand : Nat) (exponent : Int) : Option Binary64 :=
  let magnitude : Int := (Nat.toDigits 10 significand).length + exponent
  if significand = 0 || magnitude < -400 then some (zero negative)
  else if 400 < magnitude then none
  else
    nearest? negative (significand * Nat.pow 10 exponent.toNat) (Nat.pow 10 (-exponent).toNat)

/-- A power of ten, rounded. -/
def powerOfTen? (n : Nat) : Option Binary64 := nearest? false (Nat.pow 10 n) 1

/-- The rounded product of a number with a positive one. -/
def mul? (a b : Binary64) : Option Binary64 :=
  let (n, d) := timesPowerOfTwo (a.significand * b.significand) (a.exponent + b.exponent)
  nearest? a.negative n d

/-- The rounded quotient of a number by a positive one. -/
def div? (a b : Binary64) : Option Binary64 :=
  let (n, d) := timesPowerOfTwo a.significand (a.exponent - b.exponent)
  nearest? a.negative n (d * b.significand)

/-- The greatest power of ten among the finite numbers has this exponent. -/
def greatestPowerOfTen : Nat := 308

/-- Division by `10 ^ n`, in steps of at most the greatest power of ten. -/
def scaleDown? (a : Binary64) (n : Nat) : Option Binary64 :=
  if n ≤ greatestPowerOfTen then do div? a (← powerOfTen? n)
  else if a.significand = 0 then some a
  else do scaleDown? (← div? a (← powerOfTen? greatestPowerOfTen)) (n - greatestPowerOfTen)
termination_by n
decreasing_by simp only [greatestPowerOfTen] at *; omega

/-- Multiplication by `10 ^ n` in one step. -/
def scaleUp? (a : Binary64) (n : Nat) : Option Binary64 :=
  if n ≤ greatestPowerOfTen then do mul? a (← powerOfTen? n)
  else if a.significand = 0 then some a
  else none

/-- `± significand · 10 ^ exponent`, the significand rounded first and each scaling step
rounded again; `none` when a step leaves the finite numbers. -/
def scaled? (negative : Bool) (significand : Nat) (exponent : Int) : Option Binary64 := do
  let whole ← nearest? negative significand 1
  match exponent with
  | .ofNat n => scaleUp? whole n
  | .negSucc n => scaleDown? whole (n + 1)

end Binary64

end SchemaDrift
