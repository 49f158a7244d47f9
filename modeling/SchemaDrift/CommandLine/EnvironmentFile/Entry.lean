import SchemaDrift.Text.Blank

/-!
# The entries of a file of environment variables

An entry is a line, together with the lines after it for as long as a quote is open. A comment
is no part of an entry: it starts with `#`, at the start of an entry or behind a blank outside
quotes, and ends with the line.

Whether a quote is open is decided without a look at the value: a backslash takes away the
meaning of the next character, also within single quotes, and a blank right behind a blank
counts as an ordinary character.
-/

namespace SchemaDrift.CommandLine.EnvironmentFile

/-- Where in an entry a character stands. -/
inductive Place where
  /-- At the start, or behind blanks at the start. -/
  | start
  | outside
  /-- Outside quotes, behind a blank. -/
  | afterBlank
  | within (quote : Char)
  /-- Behind a backslash, which may stand within quotes. -/
  | escaped (quote : Option Char)
  | comment
deriving DecidableEq, Repr

namespace Place

/-- The place behind a character that is no blank, outside quotes. -/
def behind (c : Char) : Place :=
  if c = '\\' then .escaped none
  else if c = '"' ∨ c = '\'' then .within c
  else .outside

/-- The place behind a character at a place. -/
def next : Place → Char → Place
  | .start, c => if Text.isBlank c then .start else if c = '#' then .comment else behind c
  | .outside, c =>
    if Text.isBlank c ∧ c ≠ '\n' ∧ c ≠ '\r' then .afterBlank else behind c
  | .afterBlank, c => if c = '#' then .comment else behind c
  | .within quote, c =>
    if c = '\\' then .escaped (some quote) else if c = quote then .outside else .within quote
  | .escaped (some quote), _ => .within quote
  | .escaped none, _ => .outside
  | .comment, _ => .comment

/-- Whether an entry may end at a place. -/
def mayEnd : Place → Bool
  | .start | .outside | .comment => true
  | .afterBlank | .within _ | .escaped _ => false

end Place

namespace Entry

/-- The entries of a text, from a place in an entry of which `read` has been read, the last
character first. An entry that is not finished is left out. -/
def ofTextFrom (place : Place) (read : List Char) : List Char → List String
  | [] => if place.mayEnd then [String.ofList read.reverse] else []
  | c :: cs =>
    let next := place.next c
    if c = '\n' ∧ next.mayEnd then String.ofList read.reverse :: ofTextFrom .start [] cs
    else ofTextFrom next (if next = .comment then read else c :: read) cs

/-- The **entries** of a text, without their comments. -/
def ofText (s : String) : List String := ofTextFrom .start [] s.toList

end Entry

end SchemaDrift.CommandLine.EnvironmentFile
