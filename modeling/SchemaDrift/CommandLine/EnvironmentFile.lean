import SchemaDrift.CommandLine.EnvironmentFile.Entry
import SchemaDrift.CommandLine.EnvironmentFile.Value
import SchemaDrift.Text.Scan

/-!
# Files of environment variables

A file of environment variables has an entry `NAME=value` for each variable, which may start
with `export`. Blank entries and comments are passed over. A value may hold the values of other
variables: those of the environment, or else those of earlier entries.

Reading stops at the first entry that is none of these, and keeps what came before.
-/

namespace SchemaDrift.CommandLine.EnvironmentFile

open Text (Scan)

/-- Whether a character may stand in the name of a variable. -/
def isNameChar (c : Char) : Bool := c.isAlphanum || c = '_' || c = '.'

/-- The name of a variable: it starts with a letter or an underscore. -/
def name : Scan String := do
  let c ← Scan.satisfy fun c => c.isAlpha || c = '_'
  return String.ofList (c :: (← Scan.takeWhile isNameChar))

/-- Blanks, if there are any. -/
def blanks : Scan Unit := do
  let _ ← Scan.takeWhile Text.isBlank

/-- A variable and the characters of its value; a comment may take the place of the value. A
variable may be called `export`, too. -/
def assignment : Scan (String × List Char) := do
  let plain : Scan String := name <* blanks <* Scan.char '='
  let exported : Scan String := Scan.literal "export" *> blanks *> plain
  let variableName ← plain <|> exported
  blanks
  if (← Scan.peek?) = some '#' then
    let _ ← Scan.takeWhile fun _ => true
    return (variableName, [])
  return (variableName, ← Scan.takeWhile fun _ => true)

/-- Whether an entry, without the blanks at its ends, says nothing. -/
def isSilent (entry : String) : Bool := entry = "" || entry.startsWith "#"

/-- The variables of an environment, or else those of earlier entries; any other is empty. -/
def valueOf (environment : String → Option String) (earlier : List (String × String))
    (name : String) : String :=
  ((environment name).or (earlier.lookup name)).getD ""

/-- The variables of the entries before the first that cannot be read, after earlier ones. -/
def readEntries (environment : String → Option String) (earlier : List (String × String)) :
    List String → List (String × String)
  | [] => earlier
  | entry :: rest =>
    let entry := Text.trim entry
    if isSilent entry then readEntries environment earlier rest
    else
      let found : Option (String × String) := do
        let (name, cs) ← assignment.run entry
        return (name, ← readValue? (valueOf environment earlier) cs)
      match found with
      | some v => readEntries environment (earlier ++ [v]) rest
      | none => earlier

/-- A text without a byte order mark at its start. -/
def withoutByteOrderMark (s : String) : String :=
  match s.toList with
  | '\ufeff' :: cs => String.ofList cs
  | _ => s

/-- **Read** a file of environment variables, of which some are in the environment already. -/
def parse (environment : String → Option String) (s : String) : List (String × String) :=
  readEntries environment [] (Entry.ofText (withoutByteOrderMark s))

end SchemaDrift.CommandLine.EnvironmentFile
