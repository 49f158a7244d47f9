import SchemaDrift.Data.Basic
import SchemaDrift.Decimal.Shortest
import SchemaDrift.Text.Digits

/-!
# Writing TOML text

A record is written as a document: first the values of the record itself, one a line, then each
table in it under a header, in the order of the fields, and a blank line before each header. A
table that holds nothing but tables needs no header of its own. TOML has no null, so a field
that is null is left out.

A string is written in the first of these forms that can hold it as it is: basic, literal,
multi-line basic, multi-line literal; else as a basic string with escapes, on several lines when
it has line breaks.
-/

namespace SchemaDrift.Toml

open SchemaDrift.Text

/-! ### Strings -/

/-- Whether a character has to be escaped wherever it stands. -/
def needsEscape (c : Char) : Bool :=
  (c.toNat < 0x20 && c ≠ '\t' && c ≠ '\n') || c.toNat = 0x7F

/-- The length of the longest run of a character. -/
def longestRun (c : Char) (cs : List Char) : Nat :=
  (cs.foldl (fun (longest, present) d =>
    let present := if d = c then present + 1 else 0
    (max longest present, present)) ((0, 0) : Nat × Nat)).1

/-- A character that is escaped by its code. -/
def codeEscape (c : Char) : List Char :=
  '\\' :: 'u' :: (fourHexDigits c.toNat).map Char.toUpper

/-- The characters between the quotation marks of a basic string. `quotes` more quotation marks
may follow as they are before one is escaped, up to `most` after each escape or other
character. -/
def escapeBasic (isMultiLine : Bool) (most quotes : Nat) : List Char → List Char
  | [] => []
  | c :: cs =>
    let escapedAs (text : List Char) := text ++ escapeBasic isMultiLine most most cs
    match c with
    | '"' =>
      match quotes with
      | 0 => escapedAs ['\\', '"']
      | quotes + 1 => '"' :: escapeBasic isMultiLine most quotes cs
    | '\x08' => escapedAs ['\\', 'b']
    | '\t' => escapedAs ['\\', 't']
    | '\n' => escapedAs (if isMultiLine then ['\n'] else ['\\', 'n'])
    | '\x0c' => escapedAs ['\\', 'f']
    | '\r' => escapedAs ['\\', 'r']
    | '\\' => escapedAs ['\\', '\\']
    | c => escapedAs (if needsEscape c then codeEscape c else [c])

/-- A text between quotes on one line. -/
def oneLine (quote : Char) (cs : List Char) : List Char := quote :: cs ++ [quote]

/-- A text between three quotes on either side. A text with line breaks starts on a line of its
own. -/
def severalLines (quote : Char) (hasNewline : Bool) (cs : List Char) : List Char :=
  let quotes := [quote, quote, quote]
  quotes ++ (if hasNewline then ['\n'] else []) ++ cs ++ quotes

/-- A text as a string. -/
def stringText (s : String) : String :=
  let cs := s.toList
  let hasNewline := cs.contains '\n'
  let hasControl := cs.any needsEscape
  let hasBackslash := cs.contains '\\'
  let basic := oneLine '"' (escapeBasic false 0 0 cs)
  let basicLines := severalLines '"' hasNewline (escapeBasic true 2 2 cs)
  String.ofList <|
    if !hasControl && !hasBackslash && !hasNewline && !cs.contains '"' then basic
    else if !hasControl && !hasNewline && !cs.contains '\'' then oneLine '\'' cs
    else if !hasControl && !hasBackslash && longestRun '"' cs ≤ 2 then basicLines
    else if !hasControl && longestRun '\'' cs ≤ 2 then severalLines '\'' hasNewline cs
    else if hasNewline then basicLines
    else basic

/-- A part of a key. -/
def keyText (s : String) : String :=
  let cs := s.toList
  let hasControl := cs.any fun c => needsEscape c || c = '\n'
  String.ofList <|
    if !cs.isEmpty && cs.all (fun c => c.isAlphanum || c = '-' || c = '_') then cs
    else if !hasControl && !cs.contains '\\' && !cs.contains '"' then
      oneLine '"' (escapeBasic false 0 0 cs)
    else if !hasControl && !cs.contains '\'' then oneLine '\'' cs
    else oneLine '"' (escapeBasic false 0 0 cs)

/-! ### Values -/

/-- Floats are written with a point while one to sixteen digits stand before it or at most
four zeros after it, and with an exponent otherwise. -/
def pointRange : Decimal.PointRange := ⟨-5, 16⟩

/-- Items between brackets: one alone on the line, several on lines of their own. -/
def arrayText (items : List String) : String :=
  match items with
  | [] => "[]"
  | [item] => "[" ++ item ++ "]"
  | items => "[" ++ String.join (items.map fun item => "\n    " ++ item ++ ",") ++ "\n]"

/-- Fields between braces. -/
def inlineTableText (fields : List String) : String :=
  if fields.isEmpty then "\x7b\x7d" else "\x7b " ++ ", ".intercalate fields ++ " \x7d"

mutual

/-- A value on the right of a key; `none` when TOML has no form for it. -/
def valueText? : Data → Option String
  | .text s => some (stringText s)
  | .bool b => some (if b then "true" else "false")
  | .number (.integer n) => some (toString n)
  | .number (.float x) => some (x.text pointRange)
  | .list items => some (arrayText (itemTexts items))
  | .record fields => some (inlineTableText (fieldTexts fields))
  | .null | .unreadable => none

/-- The items of an array. -/
def itemTexts : List Data → List String
  | [] => []
  | d :: ds => (valueText? d).toList ++ itemTexts ds

/-- Keys and values of an inline table. -/
def fieldTexts : List (String × Data) → List String
  | [] => []
  | (name, d) :: fs => ((valueText? d).map (keyText name ++ " = " ++ ·)).toList ++ fieldTexts fs

end

/-! ### Documents -/

/-- A part of a document: a header, if it has one, and lines below it. -/
structure Section where
  header : Option String
  lines : List String
deriving DecidableEq, Repr

/-- Whether data is written as a table, or as an array of tables. -/
def isSection : Data → Bool
  | .record _ => true
  | .list items => !items.isEmpty && items.all fun
    | .record _ => true
    | _ => false
  | _ => false

/-- The lines of a table: those of its fields that are no sections. -/
def ownLines (fields : List (String × Data)) : List String :=
  fieldTexts (fields.filter fun f => !isSection f.2)

/-- The dotted text of a path. -/
def pathText (path : List String) : String := ".".intercalate (path.map keyText)

/-- The header of a table and its lines. Without lines it is needed only if nothing else shows
that the table is there. -/
def tableSection (path : List String) (fields : List (String × Data)) : List Section :=
  let lines := ownLines fields
  if lines.isEmpty && fields.any (isSection ·.2) then []
  else [⟨some ("[" ++ pathText path ++ "]"), lines⟩]

mutual

/-- The sections of the fields of a table at a path. -/
def sectionsOf (path : List String) : List (String × Data) → List Section
  | [] => []
  | (name, d) :: fs => sectionsAt (path ++ [name]) d ++ sectionsOf path fs

/-- The sections of data at a path. -/
def sectionsAt (path : List String) : Data → List Section
  | .record fields => tableSection path fields ++ sectionsOf path fields
  | .list items => if isSection (.list items) then elementsAt path items else []
  | _ => []

/-- The sections of the elements of an array of tables at a path. -/
def elementsAt (path : List String) : List Data → List Section
  | [] => []
  | .record fields :: ds =>
    ⟨some ("[[" ++ pathText path ++ "]]"), ownLines fields⟩ :: sectionsOf path fields
      ++ elementsAt path ds
  | _ :: ds => elementsAt path ds

end

/-- The text of a section, each line with its end. -/
def Section.text (s : Section) : String :=
  String.join ((s.header.toList ++ s.lines).map (· ++ "\n"))

/-- The text of a document with these fields. -/
def print (fields : List (String × Data)) : String :=
  let own : List Section := if (ownLines fields).isEmpty then [] else [⟨none, ownLines fields⟩]
  "\n".intercalate ((own ++ sectionsOf [] fields).map Section.text)

end SchemaDrift.Toml
