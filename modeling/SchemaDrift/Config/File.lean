import SchemaDrift.Config
import SchemaDrift.FileError
import SchemaDrift.Toml.Printer
import SchemaDrift.Toml.Reader

/-!
# Project settings in files

Project settings are kept in files as TOML. What is not set is not written.
-/

namespace SchemaDrift

/-- Why project settings cannot be loaded. -/
inductive ConfigError where
  | unreadable (cause : FileError)
  /-- The text is no TOML, or says no project settings. -/
  | malformed
deriving DecidableEq, Repr

/-- What is reported about project settings that cannot be loaded. -/
def ConfigError.message : ConfigError → String
  | .unreadable cause => "IO error: " ++ cause.message
  | .malformed => "Parse error: not project settings"

namespace Config

/-- The fields of project settings that are written to a file. -/
def savedFields (c : Config) : List (String × Data) :=
  match c.toData.withoutNulls with
  | .record fields => fields
  | _ => []

/-- Project settings as the text of a file. -/
def saved (c : Config) : String := Toml.print c.savedFields

/-- Load project settings from what was read. -/
def load (read : Except FileError String) : Except ConfigError Config :=
  match read with
  | .error e => .error (.unreadable e)
  | .ok s =>
    match (Toml.parse s).bind (ofData? .toml) with
    | some c => .ok c
    | none => .error .malformed

end Config

end SchemaDrift
