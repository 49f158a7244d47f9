import SchemaDrift.Data.Value
import SchemaDrift.Text.AsciiCase
import SchemaDrift.Text.CaseMap

/-!
# How engines treat names

An engine has a quote character, and a casing by which it stores names that are not quoted. A
name between quote characters is taken as written; quoting a name doubles the quote characters
in it.

Two columns are the same when their names have the same **key**: the name without the quote
characters at its ends, folded by the casing of the engine.
-/

namespace SchemaDrift

/-- How an engine stores a name that is not quoted. -/
inductive Casing where
  | upper
  | lower
  | preserve
deriving DecidableEq, Repr

/-- A name as it is stored. -/
def Casing.fold : Casing → String → String
  | .upper, s => Text.upper s
  | .lower, s => Text.lower s
  | .preserve, s => s

/-- The name of a casing. -/
def Casing.text : Casing → String
  | .upper => "upper"
  | .lower => "lower"
  | .preserve => "preserve"

/-- The rules of an **engine**: its quote character and its casing. -/
structure Engine where
  quoteChar : Char
  casing : Casing
deriving DecidableEq, Repr

/-! ### Names that need quotes anywhere -/

/-- Words that are no names unless they are quoted. -/
def reservedWords : List String :=
  ["all", "alter", "and", "any", "array", "as", "asc", "between", "by", "case", "cast",
   "check", "column", "constraint", "create", "cross", "current", "current_date",
   "current_time", "current_timestamp", "current_user", "date", "default", "delete", "desc",
   "distinct", "drop", "else", "end", "except", "exists", "false", "fetch", "for", "foreign",
   "from", "full", "grant", "group", "having", "in", "inner", "insert", "intersect",
   "interval", "into", "is", "join", "lateral", "left", "like", "limit", "natural", "not",
   "null", "of", "offset", "on", "or", "order", "outer", "partition", "primary", "qualify",
   "references", "right", "rows", "select", "set", "some", "table", "then", "time",
   "timestamp", "to", "true", "union", "unique", "update", "user", "using", "values",
   "when", "where", "window", "with"]

/-- Whether a text is a reserved word in any ASCII case. -/
def isReserved (name : String) : Bool := reservedWords.any (Text.eqIgnoringCase · name)

/-- Whether a text is a letter or underscore followed by letters, digits and underscores, all
of them ASCII. -/
def isPlainName (name : String) : Bool :=
  match name.toList with
  | [] => false
  | c :: cs => (c.isAlpha || c = '_') && cs.all fun c => c.isAlphanum || c = '_'

/-- Whether a name must be quoted on every engine. -/
def mustQuote (name : String) : Bool := !isPlainName name || isReserved name

/-! ### The rules of an engine -/

namespace Engine

/-- Whether a name stands between two quote characters. -/
def isQuoted (e : Engine) (name : String) : Bool :=
  2 ≤ name.toList.length && name.toList.head? = some e.quoteChar
    && name.toList.getLast? = some e.quoteChar

/-- A name without the quote characters at its ends. -/
def stripQuotes (e : Engine) (name : String) : String :=
  String.ofList (Text.trimBoth (· == e.quoteChar) name.toList)

/-- The characters of a name with every quote character doubled. -/
def doubled (e : Engine) (cs : List Char) : List Char :=
  cs.flatMap fun c => if c = e.quoteChar then [c, c] else [c]

/-- A name between quote characters, with every quote character in it doubled. -/
def quote (e : Engine) (name : String) : String :=
  String.ofList (e.quoteChar :: e.doubled name.toList ++ [e.quoteChar])

/-- Whether a stored name changes when it is written without quotes. -/
def needsQuoting (e : Engine) (name : String) : Bool :=
  mustQuote name || e.casing.fold name != name

/-- A stored name as it is written in a statement: quoted when it has to be. -/
def quoteIfNeeded (e : Engine) (name : String) : String :=
  if e.needsQuoting name then e.quote name else name

/-- The **key** of a column name. -/
def columnKey (e : Engine) (name : String) : String := e.casing.fold (e.stripQuotes name)

end Engine

/-! ### Known engines -/

/-- The dialects a project can name. -/
inductive Dialect where
  | snowflake
  | postgres
  | bigQuery
  | athena
  | ansi
deriving DecidableEq, Repr

/-- The rules of a dialect's engine. -/
def Dialect.engine : Dialect → Engine
  | .snowflake => ⟨'"', .upper⟩
  | .postgres => ⟨'"', .lower⟩
  | .bigQuery => ⟨'\x60', .preserve⟩
  | .athena => ⟨'"', .lower⟩
  | .ansi => ⟨'"', .upper⟩

end SchemaDrift
