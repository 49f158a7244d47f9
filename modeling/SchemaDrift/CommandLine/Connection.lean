import SchemaDrift.CommandLine.Outcome
import SchemaDrift.Config
import SchemaDrift.Snowflake.Answer
import SchemaDrift.Text.CaseMap

/-!
# The command `list`

To list the relations of a schema the program would connect to the warehouse of the project.
It holds a client for no warehouse, so that every connection fails; the settings are looked at
before that. A setting that the project does not make is taken from the environment.
-/

namespace SchemaDrift.CommandLine

/-- Why there is no connection to a warehouse. -/
inductive ConnectionError where
  /-- The warehouse is of a type that is not known. -/
  | unsupported (type : String)
  /-- The type of warehouse has to be told this. -/
  | missing (setting : String)
  | failed (cause : FetchError)
deriving DecidableEq, Repr

/-- What is reported about a connection that cannot be made. -/
def ConnectionError.message : ConnectionError → String
  | .unsupported type => "Unsupported warehouse type '" ++ type ++ "'. Supported: snowflake"
  | .missing setting => "Snowflake requires '" ++ setting ++ "' in warehouse settings"
  | .failed cause => cause.message

/-- The warehouse of a project that describes none. -/
def defaultWarehouse : WarehouseConfig := ⟨"snowflake", .empty⟩

/-- The settings that Snowflake has to be told, with the environment variables that may hold
them. -/
def snowflakeSettings : List (String × String) :=
  [("account", "SNOWFLAKE_ACCOUNT"), ("username", "SNOWFLAKE_USER"),
    ("password", "SNOWFLAKE_PASSWORD")]

/-- A setting of a warehouse, from the project or else from the environment. -/
def settingOf (environment : String → Option String) (w : WarehouseConfig)
    (setting : String × String) : Option String :=
  (w.settings.find? setting.1).or (environment setting.2)

/-- Why there is no connection to a warehouse. -/
def connectionError (environment : String → Option String) (w : WarehouseConfig) :
    ConnectionError :=
  let type := Text.lower w.type
  if type = "snowflake" then
    match snowflakeSettings.find? fun s => (settingOf environment w s).isNone with
    | some s => .missing s.1
    | none => .failed Snowflake.noClient
  else .unsupported type

/-- **List** the relations of a schema, which fails for want of a connection. -/
def runList (environment : String → Option String) (c : Config) (verbose : Bool) : Transcript :=
  let w := c.warehouse.getD defaultWarehouse
  (Transcript.failure (connectionError environment w).message).announcedBy
    (if verbose then ["Connecting to " ++ w.type ++ "..."] else [])

end SchemaDrift.CommandLine
