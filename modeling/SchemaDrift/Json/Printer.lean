import SchemaDrift.Data.Basic
import SchemaDrift.Decimal.Shortest
import SchemaDrift.Text.Digits

/-!
# Writing JSON text

`Json.compact` writes a tree without spaces, `Json.pretty` with two spaces per level. Fields
are written in the order of the tree. In strings only the quotation mark, the backslash and the
characters below U+0020 are escaped.
-/

namespace SchemaDrift.Json

/-- Floats are written with a point while one to sixteen digits stand before it or at most
four zeros after it, and with an exponent otherwise. -/
def pointRange : Decimal.PointRange := ⟨-5, 16⟩

/-- A number. -/
def numberText : Number → String
  | .integer n => toString n
  | .float x => x.text pointRange

/-- One character inside a string. -/
def escape (c : Char) : List Char :=
  match c with
  | '"' => ['\\', '"']
  | '\\' => ['\\', '\\']
  | '\x08' => ['\\', 'b']
  | '\x0c' => ['\\', 'f']
  | '\n' => ['\\', 'n']
  | '\r' => ['\\', 'r']
  | '\t' => ['\\', 't']
  | c => if c.toNat < 0x20 then '\\' :: 'u' :: Text.fourHexDigits c.toNat else [c]

/-- A string with its quotation marks. -/
def quote (s : String) : String := String.ofList ('"' :: s.toList.flatMap escape ++ ['"'])

mutual

/-- A tree on one line, without spaces. -/
def compact : Data → String
  | .null => "null"
  | .bool true => "true"
  | .bool false => "false"
  | .number n => numberText n
  | .text s => quote s
  | .list items => "[" ++ ",".intercalate (compactItems items) ++ "]"
  | .record fields => "\x7b" ++ ",".intercalate (compactFields fields) ++ "\x7d"
  | .unreadable => "null"

/-- The items of a list, each on its own. -/
def compactItems : List Data → List String
  | [] => []
  | d :: ds => compact d :: compactItems ds

/-- The fields of a record, each on its own. -/
def compactFields : List (String × Data) → List String
  | [] => []
  | (name, d) :: fs => (quote name ++ ":" ++ compact d) :: compactFields fs

end

theorem numberText_ne_empty (n : Number) : numberText n ≠ "" := by
  cases n with
  | integer n =>
    rw [numberText, Int.toString_eq_repr, Int.repr_eq_if]
    split <;> simp [Nat.repr]
  | float x => exact x.text_ne_empty pointRange

/-- No tree is written as nothing. -/
theorem compact_ne_empty (d : Data) : compact d ≠ "" := by
  cases d with
  | number n => exact numberText_ne_empty n
  | bool b => cases b <;> simp [compact]
  | _ => simp [compact, quote]

/-- The start of a line at some level. -/
def indent (level : Nat) : String := String.ofList ('\n' :: List.replicate (2 * level) ' ')

/-- Parts between brackets, each on a line of its own; without parts, the brackets alone. -/
def bracketed (level : Nat) (opening closing : String) (parts : List String) : String :=
  if parts.isEmpty then opening ++ closing else
  opening ++ indent (level + 1) ++ ("," ++ indent (level + 1)).intercalate parts ++ indent level
    ++ closing

mutual

/-- A tree at some level, with two spaces per level. -/
def prettyAt (level : Nat) : Data → String
  | .list items => bracketed level "[" "]" (prettyItems level items)
  | .record fields => bracketed level "\x7b" "\x7d" (prettyFields level fields)
  | .null => "null"
  | .bool true => "true"
  | .bool false => "false"
  | .number n => numberText n
  | .text s => quote s
  | .unreadable => "null"

/-- The items of a list at some level. -/
def prettyItems (level : Nat) : List Data → List String
  | [] => []
  | d :: ds => prettyAt (level + 1) d :: prettyItems level ds

/-- The fields of a record at some level. -/
def prettyFields (level : Nat) : List (String × Data) → List String
  | [] => []
  | (name, d) :: fs => (quote name ++ ": " ++ prettyAt (level + 1) d) :: prettyFields level fs

end

/-- A tree over several lines. -/
def pretty (d : Data) : String := prettyAt 0 d

end SchemaDrift.Json
