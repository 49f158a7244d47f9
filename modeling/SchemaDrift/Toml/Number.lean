import SchemaDrift.Data.Basic
import SchemaDrift.Toml.Text

/-!
# Numbers and dates of TOML

Integers have 64 bits and are written in decimal, with a sign and without leading zeros, or in
hexadecimal, octal or binary, without a sign. Floats have a fraction, an exponent or both. In all
of them an underscore may stand between two digits.

A float that is too great is refused when it is positive; when it is negative, like the infinite
numbers and those that are none, it is a value that nobody can read. So is a date or a time.
-/

namespace SchemaDrift.Toml

open SchemaDrift.Text

/-- Digits in a base, with single underscores between them. -/
def digitsIn (base : Nat) : Scan (List Char) := do
  let first ← Scan.satisfy (isDigitIn base)
  let digit := Scan.satisfy (isDigitIn base)
  let others ← Scan.many (digit <|> Scan.char '_' *> digit)
  return first :: others

/-- A sign, if any; whether it is a minus. -/
def sign : Scan Bool := do
  let c ← Scan.option (Scan.satisfy fun c => c = '+' || c = '-')
  return c = some '-'

/-- Decimal digits without a leading zero. -/
def wholeDigits : Scan (List Char) := fun
  | '0' :: cs => some (['0'], cs)
  | cs => digitsIn 10 cs

/-! ### Integers -/

/-- An integer of 64 bits. -/
def bounded (n : Int) : Scan Data :=
  let bound : Int := Nat.pow 2 63
  if -bound ≤ n ∧ n < bound then return .number (.integer n) else failure

/-- A number in a base that is announced by two characters. -/
def based (announcement : String) (base : Nat) : Scan Data := do
  Scan.literal announcement
  bounded (numberOf base (← digitsIn base))

/-- A decimal integer. -/
def decimal : Scan Data := do
  let negative ← sign
  let n : Int := numberOf 10 (← wholeDigits)
  bounded (if negative then -n else n)

/-- An integer. -/
def integer : Scan Data := based "0x" 16 <|> based "0o" 8 <|> based "0b" 2 <|> decimal

/-! ### Floats -/

/-- The exponent of a float. -/
def exponent : Scan Int := do
  let _ ← Scan.satisfy fun c => c = 'e' || c = 'E'
  let negative ← sign
  let n : Int := numberOf 10 (← digitsIn 10)
  return if negative then -n else n

/-- What a float of given parts means. -/
def floatOf (negative : Bool) (whole fraction : List Char) (exponent : Int) : Scan Data :=
  let significand := numberOf 10 (whole ++ fraction)
  match Binary64.ofDecimal? negative significand (exponent - fraction.length) with
  | some x => return .number (.float x)
  | none => if negative then return .unreadable else failure

/-- A float in digits. -/
def digitFloat : Scan Data := do
  let negative ← sign
  let whole ← wholeDigits
  match ← Scan.option exponent with
  | some e => floatOf negative whole [] e
  | none =>
    Scan.char '.'
    let fraction ← digitsIn 10
    floatOf negative whole fraction ((← Scan.option exponent).getD 0)

/-- An infinite number, or none. -/
def specialFloat : Scan Data := do
  let _ ← sign
  Scan.literal "inf" <|> Scan.literal "nan"
  return .unreadable

/-! ### Dates and times -/

/-- A number of exactly `width` digits between bounds. -/
def field (width least greatest : Nat) : Scan Nat := fun cs =>
  let digits := cs.take width
  let n := numberOf 10 digits
  if digits.length = width ∧ digits.all (isDigitIn 10) ∧ least ≤ n ∧ n ≤ greatest then
    some (n, cs.drop width)
  else none

/-- The number of days of a month. -/
def daysOf (year month : Nat) : Nat :=
  if month = 2 then
    if year % 4 = 0 ∧ (year % 100 ≠ 0 ∨ year % 400 = 0) then 29 else 28
  else if [4, 6, 9, 11].contains month then 30
  else 31

/-- A date. -/
def date : Scan Unit := do
  let year ← field 4 0 9999
  Scan.char '-'
  let month ← field 2 1 12
  Scan.char '-'
  let _ ← field 2 1 (daysOf year month)

/-- A time of day; a minute may have a leap second. -/
def time : Scan Unit := do
  let _ ← field 2 0 23
  Scan.char ':'
  let _ ← field 2 0 59
  Scan.char ':'
  let _ ← field 2 0 60
  let _ ← Scan.option do
    Scan.char '.'
    let _ ← Scan.takeWhile1 (isDigitIn 10)

/-- The distance of a time from universal time. -/
def offset : Scan Unit := do
  match ← Scan.satisfy fun c => ['Z', 'z', '+', '-'].contains c with
  | 'Z' | 'z' => return
  | _ =>
    let _ ← field 2 0 23
    Scan.char ':'
    let _ ← field 2 0 59

/-- A date, a time, or both. -/
def dateTime : Scan Data := do
  let timeOfDay := do
    let _ ← Scan.satisfy fun c => ['T', 't', ' '].contains c
    time
    let _ ← Scan.option offset
  (do
    date
    let _ ← Scan.option timeOfDay) <|> time
  return .unreadable

/-- A number or a date. -/
def number : Scan Data := dateTime <|> digitFloat <|> specialFloat <|> integer

end SchemaDrift.Toml
