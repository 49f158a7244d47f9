import SchemaDrift.Text.Digits
import SchemaDrift.Text.Scan

/-!
# Lines, strings and keys of TOML

A TOML text is made of lines. Within a line the blanks are space and tab; a line ends with a
line feed, which a carriage return may precede, or with the text. A comment runs from `#` to the
end of its line.

There are four kinds of strings: **basic** strings between quotation marks, in which a backslash
escapes, **literal** strings between apostrophes, in which nothing does, and the multi-line form
of each, between three quotation marks or apostrophes. A multi-line string drops a line break
right after its opening, and may hold up to two of its own quotation marks in a row anywhere.
-/

namespace SchemaDrift.Toml

open SchemaDrift.Text

/-! ### Lines -/

/-- A blank within a line. -/
def isLineBlank (c : Char) : Bool := c = ' ' || c = '\t'

/-- A character that may stand in a comment: no control character but the tab. -/
def isPlain (c : Char) : Bool := c = '\t' || (0x20 ≤ c.toNat && c.toNat ≠ 0x7F)

/-- Blanks within a line, if any. -/
def blanks : Scan Unit := do
  let _ ← Scan.takeWhile isLineBlank

/-- The end of a line that is not the last. -/
def newline : Scan Unit := fun
  | '\n' :: cs => some ((), cs)
  | '\r' :: '\n' :: cs => some ((), cs)
  | _ => none

/-- The end of a line. -/
def lineEnd : Scan Unit := newline <|> Scan.atEnd

/-- A comment. -/
def comment : Scan Unit := do
  Scan.char '#'
  let _ ← Scan.takeWhile isPlain

/-- What may follow on a line when all has been said. -/
def restOfLine : Scan Unit := do
  blanks
  let _ ← Scan.option comment
  lineEnd

/-- Blanks, comments and ends of lines, if any. -/
def gaps : Scan Unit := do
  let blank := do
    let _ ← Scan.satisfy isLineBlank
  let _ ← Scan.many (blank <|> newline <|> comment *> newline)

/-! ### Strings -/

/-- The character with a code that is written with a number of hexadecimal digits. -/
def coded (digits : Nat) : Scan Char := fun cs =>
  let code := numberOf 16 (cs.take digits)
  if (cs.take digits).length = digits ∧ (cs.take digits).all (isDigitIn 16) ∧ code.isValidChar then
    some (Char.ofNat code, cs.drop digits)
  else none

/-- An escaped character. -/
def escaped : Scan Char := do
  Scan.char '\\'
  match ← Scan.satisfy fun _ => true with
  | 'b' => return '\x08'
  | 't' => return '\t'
  | 'n' => return '\n'
  | 'f' => return '\x0c'
  | 'r' => return '\r'
  | '"' => return '"'
  | '\\' => return '\\'
  | 'u' => coded 4
  | 'U' => coded 8
  | _ => failure

/-- A character of a basic string that stands for itself. -/
def isBasic (c : Char) : Bool := isPlain c && c ≠ '"' && c ≠ '\\'

/-- A character of a literal string. -/
def isLiteral (c : Char) : Bool := isPlain c && c ≠ '\''

/-- A basic string on one line. -/
def basicString : Scan String := do
  Scan.char '"'
  let cs ← Scan.many (Scan.satisfy isBasic <|> escaped)
  Scan.char '"'
  return String.ofList cs

/-- A literal string on one line. -/
def literalString : Scan String := do
  Scan.char '\''
  let cs ← Scan.takeWhile isLiteral
  Scan.char '\''
  return String.ofList cs

/-- One or two quotes, and no more, inside a multi-line string. -/
def innerQuotes (quote : Char) : Scan (List Char) := fun cs =>
  let run := cs.takeWhile (· = quote)
  if 1 ≤ run.length ∧ run.length ≤ 2 then some (run, cs.dropWhile (· = quote)) else none

/-- A multi-line string of given parts. Up to two quotes before the closing ones belong to the
string. -/
def multiLine (quote : Char) (part : Scan (List Char)) : Scan String := do
  Scan.literal (String.ofList [quote, quote, quote])
  let _ ← Scan.option newline
  let parts ← Scan.many (part <|> innerQuotes quote)
  let closing ← Scan.takeWhile (· = quote)
  if 3 ≤ closing.length ∧ closing.length ≤ 5 then
    return String.ofList (parts.flatten ++ closing.drop 3)
  else failure

/-- A line break inside a multi-line string, as one line feed. -/
def innerNewline : Scan (List Char) := do
  newline
  return ['\n']

/-- A backslash at the end of a line: it and all blanks and line breaks after it are dropped. -/
def continuation : Scan (List Char) := do
  Scan.char '\\'
  blanks
  newline
  let blank := do
    let _ ← Scan.satisfy isLineBlank
  let _ ← Scan.many (blank <|> newline)
  return []

/-- A multi-line basic string. -/
def multiLineBasic : Scan String :=
  let one := fun c => [c]
  multiLine '"' (one <$> Scan.satisfy isBasic <|> continuation <|> one <$> escaped <|> innerNewline)

/-- A multi-line literal string. -/
def multiLineLiteral : Scan String :=
  multiLine '\'' ((fun c => [c]) <$> Scan.satisfy isLiteral <|> innerNewline)

/-- A string of any kind. -/
def string : Scan String := multiLineBasic <|> basicString <|> multiLineLiteral <|> literalString

/-! ### Keys -/

/-- A character of a key that is written without quotes. -/
def isBareKey (c : Char) : Bool := c.isAlphanum || c = '-' || c = '_'

/-- A part of a key. -/
def keyPart : Scan String :=
  basicString <|> literalString <|> String.ofList <$> Scan.takeWhile1 isBareKey

/-- Keys have fewer parts than this. -/
def keyLimit : Nat := 80

/-- A key: parts with points and blanks between them, and blanks around. -/
def key : Scan (List String) := do
  let parts ← Scan.separated (blanks *> keyPart <* blanks) (Scan.char '.')
  if parts.isEmpty || keyLimit ≤ parts.length then failure
  return parts

end SchemaDrift.Toml
