import SchemaDrift.Toml.Number
import SchemaDrift.Toml.Tree

/-!
# Reading TOML text

`Toml.parse` reads a text as a data tree: the lines become statements, and the statements build
up the tree of the document one after another. It fails when the text does not follow the
grammar, or when a statement cannot be carried out.
-/

namespace SchemaDrift.Toml

open SchemaDrift.Text

/-! ### Values -/

/-- Arrays and inline tables may be nested this deep. -/
def nestingLimit : Nat := 79

/-- The table that pairs of keys and values write. -/
def tableOf (pairs : List (List String × Data)) : Scan Data :=
  match pairs.foldlM (fun t p => Item.assign p.1 p.2 t) Item.newTable with
  | some t => return t.toData
  | none => failure

/-- Items of an array, with a comma after the last one or not. -/
def arrayOf (value : Scan Data) : Scan Data := do
  Scan.char '['
  let items ← Scan.separated (gaps *> value <* gaps) (Scan.char ',')
  if !items.isEmpty then
    let _ ← Scan.option (Scan.char ',')
  gaps
  Scan.char ']'
  return .list items

/-- A key and its value. -/
def pair (value : Scan Data) : Scan (List String × Data) := do
  let k ← key
  Scan.char '='
  blanks
  return (k, ← value)

/-- A table on one line. -/
def inlineTableOf (value : Scan Data) : Scan Data := do
  Scan.char '\x7b'
  let pairs ← Scan.separated (pair value <* blanks) (Scan.char ',')
  blanks
  Scan.char '\x7d'
  tableOf pairs

/-- A value whose items are given, if it may have any. -/
def valueOf (item : Option (Scan Data)) : Scan Data := do
  match ← Scan.peek?, item with
  | some '"', _ | some '\'', _ => .text <$> string
  | some '[', some item => arrayOf item
  | some '\x7b', some item => inlineTableOf item
  | some 't', _ => (fun _ => .bool true) <$> Scan.literal "true"
  | some 'f', _ => (fun _ => .bool false) <$> Scan.literal "false"
  | _, _ => number

/-- A value with arrays and inline tables nested at most `levels` deep. -/
def value : (levels : Nat) → Scan Data
  | 0 => valueOf none
  | levels + 1 => valueOf (some (value levels))

/-! ### Documents -/

/-- What a line says. -/
inductive Statement where
  | assignment (key : List String) (d : Data)
  /-- The header of a table. -/
  | table (path : List String)
  /-- The header of the next element of an array of tables. -/
  | element (path : List String)

/-- The header of an element. -/
def elementHeader : Scan Statement := do
  Scan.literal "[["
  let path ← key
  Scan.literal "]]"
  restOfLine
  return .element path

/-- The header of a table. -/
def tableHeader : Scan Statement := do
  Scan.char '['
  let path ← key
  Scan.char ']'
  restOfLine
  return .table path

/-- An assignment. -/
def assignment : Scan Statement := do
  let (k, d) ← pair (value nestingLimit)
  restOfLine
  return .assignment k d

/-- A line and the blanks that start the next one. A line without a statement says nothing. -/
def line : Scan (Option Statement) :=
  ((fun _ => none) <$> newline
    <|> (fun _ => none) <$> (comment *> lineEnd)
    <|> some <$> elementHeader
    <|> some <$> tableHeader
    <|> some <$> assignment) <* blanks

/-- The statements of a text, which may start with a byte order mark. -/
def statements : Scan (List Statement) := do
  let _ ← Scan.option (Scan.char '\uFEFF')
  blanks
  let lines ← Scan.many line
  return lines.filterMap id

/-- A document that is being read: its tree, and the path of the table that is open. -/
structure Document where
  root : Item := .newTable
  openPath : List String := []

/-- Carry out a statement. -/
def Document.say (doc : Document) : Statement → Option Document
  | .assignment k d => do
    let root ← Item.alter false (Item.assign k d) doc.openPath doc.root
    return { doc with root }
  | .table path => do
    let name ← path.getLast?
    let root ← Item.alter false (Item.openTable name) path.dropLast doc.root
    return ⟨root, path⟩
  | .element path => do
    let name ← path.getLast?
    let root ← Item.alter false (Item.openElement name) path.dropLast doc.root
    return ⟨root, path⟩

/-- Read a text. -/
def parse (s : String) : Option Data := do
  let doc ← (← Scan.run statements s).foldlM Document.say {}
  return doc.root.toData

end SchemaDrift.Toml
