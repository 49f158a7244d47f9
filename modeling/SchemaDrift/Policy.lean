import SchemaDrift.Identifier.Normalize
import SchemaDrift.Text.Blank

/-!
# Policies

A policy says what to do about a table whose columns differ from those the next load brings.
-/

namespace SchemaDrift

/-- What to do when the columns of a table have drifted. -/
inductive Policy where
  /-- Leave the table as it is. -/
  | ignore
  /-- Add the columns that the table lacks. -/
  | appendNewColumns
  /-- Add the columns that the table lacks, then drop those that are not loaded. -/
  | syncAllColumns
  /-- Refuse to go on. -/
  | fail
deriving DecidableEq, Repr

namespace Policy

/-- The name of a policy in settings. -/
def text : Policy → String
  | .ignore => "ignore"
  | .appendNewColumns => "append_new_columns"
  | .syncAllColumns => "sync_all_columns"
  | .fail => "fail"

/-- All policies. -/
def all : List Policy := [.ignore, .appendNewColumns, .syncAllColumns, .fail]

/-- The policy of a project that sets none. -/
instance : Inhabited Policy := ⟨.ignore⟩

/-- Read a setting: the name of a policy, blanks around it and ASCII case aside. -/
def parse (s : String) : Except ConfigurationError Policy :=
  match all.find? fun p => Text.eqIgnoringCase p.text (Text.trim s) with
  | some p => .ok p
  | none => .error (.unknownPolicy s)

/-- A policy as data. -/
def toData (p : Policy) : Data := .text p.text

/-- Read a policy, exactly as it is written in data. -/
def ofData? (form : Form) (d : Data) : Option Policy :=
  d.choice? form (all.map fun p => (p.text, p))

end Policy

end SchemaDrift
