import SchemaDrift.Json.Numeral
import SchemaDrift.Text.Scan

/-!
# Reading JSON text

`Json.parse` reads a whole text into a data tree, or fails where the text leaves the grammar.
Three things that the grammar allows say nothing and become `Data.unreadable`: a number that is
not finite, a string with half of a surrogate pair, and a list or record that lies inside
`nestingLimit` others. A record with an unreadable name is unreadable itself.
-/

namespace SchemaDrift.Json

open Text

/-- Lists and records may be nested this deeply. -/
def nestingLimit : Nat := 127

/-- The characters between tokens. -/
def isSpace (c : Char) : Bool := c = ' ' || c = '\t' || c = '\n' || c = '\r'

/-- Skip the characters between tokens. -/
def spaces : Scan Unit := do
  let _ ← Scan.takeWhile isSpace

/-! ### Numerals -/

/-- The digits before a point: one digit, or several that do not start with zero. -/
def wholeDigits : Scan (List Char) := do
  let digits ← Scan.takeWhile1 (isDigitIn 10)
  match digits with
  | '0' :: _ :: _ => failure
  | _ => return digits

/-- A point and the digits after it. -/
def fraction : Scan (List Char) := Scan.char '.' *> Scan.takeWhile1 (isDigitIn 10)

/-- The mark of an exponent and the exponent. -/
def exponent : Scan Int := do
  let _ ← Scan.satisfy fun c => c = 'e' || c = 'E'
  let sign ← Scan.option (Scan.satisfy fun c => c = '+' || c = '-')
  let digits ← Scan.takeWhile1 (isDigitIn 10)
  let n : Int := numberOf 10 digits
  return if sign = some '-' then -n else n

/-- An optional part that its first character announces: once announced it must be whole. -/
def announced {α : Type} (p : Char → Bool) (part : Scan α) : Scan (Option α) := do
  match ← Scan.peek? with
  | some c => if p c then some <$> part else return none
  | none => return none

/-- A numeral. -/
def numeral : Scan Numeral := do
  let sign ← Scan.option (Scan.char '-')
  let whole ← wholeDigits
  let fraction ← announced (· = '.') fraction
  let exponent ← announced (fun c => c = 'e' || c = 'E') exponent
  return ⟨sign.isSome, whole, fraction, exponent⟩

/-! ### Strings -/

/-- A part of a string: a character, or a code unit of 16 bits written in hexadecimal. -/
inductive StringPart where
  | char (c : Char)
  | unit (n : Nat)

/-- The character that a one-letter escape means. -/
def escaped? : Char → Option Char
  | '"' => some '"'
  | '\\' => some '\\'
  | '/' => some '/'
  | 'b' => some '\x08'
  | 'f' => some '\x0c'
  | 'n' => some '\n'
  | 'r' => some '\r'
  | 't' => some '\t'
  | _ => none

/-- One part of a string. -/
def stringPart : Scan StringPart := fun
  | '\\' :: 'u' :: a :: b :: c :: d :: rest =>
    if [a, b, c, d].all (isDigitIn 16) then some (.unit (numberOf 16 [a, b, c, d]), rest) else none
  | '\\' :: c :: rest => (escaped? c).map fun e => (.char e, rest)
  | c :: rest => if c = '"' || c = '\\' || c.toNat < 0x20 then none else some (.char c, rest)
  | [] => none

/-- Whether a code unit is the first half of a surrogate pair. -/
def isLeading (n : Nat) : Bool := 0xD800 ≤ n && n ≤ 0xDBFF

/-- Whether a code unit is the second half of a surrogate pair. -/
def isTrailing (n : Nat) : Bool := 0xDC00 ≤ n && n ≤ 0xDFFF

/-- The characters of string parts, surrogate pairs joined; `none` when a half is alone. -/
def joinParts? : List StringPart → Option (List Char)
  | [] => some []
  | .char c :: ps => (joinParts? ps).map (c :: ·)
  | .unit n :: ps =>
    if isLeading n then
      match ps with
      | .unit m :: ps =>
        if isTrailing m then
          (joinParts? ps).map (Char.ofNat (0x10000 + (n - 0xD800) * 0x400 + (m - 0xDC00)) :: ·)
        else none
      | _ => none
    else if isTrailing n then none
    else (joinParts? ps).map (Char.ofNat n :: ·)

/-- A string; its text is `none` when half of a surrogate pair stands alone in it. -/
def string : Scan (Option String) := do
  Scan.char '"'
  let parts ← Scan.many stringPart
  Scan.char '"'
  return (joinParts? parts).map String.ofList

/-! ### Trees -/

/-- A record from the fields that were read, if all names are readable. -/
def recordOf (fields : List (Option String × Data)) : Data :=
  match fields.mapM fun f => f.1.map fun name => (name, f.2) with
  | some fields => .record fields
  | none => .unreadable

/-- A list or record that lies inside `depth` others. -/
def atDepth (depth : Nat) (d : Data) : Data := if depth < nestingLimit then d else .unreadable

/-- A tree that lies inside `depth` lists and records, with at most `fuel` levels of its own. -/
def tree : (fuel depth : Nat) → Scan Data
  | 0, _ => failure
  | fuel + 1, depth => do
    match ← Scan.peek? with
    | some '"' => return (match ← string with
      | some s => .text s
      | none => .unreadable)
    | some '[' => do
      Scan.char '['
      spaces
      let items ← Scan.separated (tree fuel (depth + 1) <* spaces) (Scan.char ',' *> spaces)
      Scan.char ']'
      return atDepth depth (.list items)
    | some '\x7b' => do
      Scan.char '\x7b'
      spaces
      let field := do
        let name ← string
        spaces
        Scan.char ':'
        spaces
        return (name, ← tree fuel (depth + 1) <* spaces)
      let fields ← Scan.separated field (Scan.char ',' *> spaces)
      Scan.char '\x7d'
      return atDepth depth (recordOf fields)
    | some 't' => (fun _ => .bool true) <$> Scan.literal "true"
    | some 'f' => (fun _ => .bool false) <$> Scan.literal "false"
    | some 'n' => (fun _ => .null) <$> Scan.literal "null"
    | _ => do
      let n ← numeral
      return (match n.number? with
        | some n => .number n
        | none => .unreadable)

/-- Read a text. Each level of nesting takes a character, so the length of the text bounds
them. -/
def parse (s : String) : Option Data :=
  Scan.run (spaces *> tree (s.length + 1) 0 <* spaces) s

end SchemaDrift.Json
