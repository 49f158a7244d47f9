import SchemaDrift.CommandLine.Connection
import SchemaDrift.CommandLine.EnvironmentFile
import SchemaDrift.CommandLine.ModelTable
import SchemaDrift.CommandLine.Planning
import SchemaDrift.Config.File

/-!
# Runs of the program

A run reads its command line, then the project settings, then does what the command asks for.
The settings are in the file that the command line names, or else in a file of a fixed name, or
else there are none. Environment variables may also be set in a file; those that are set
already go first.
-/

namespace SchemaDrift.CommandLine

/-- The name of the program. -/
def programName : String := "relsync"

/-- The version of the program. -/
def programVersion : String := "0.1.0"

/-- The file with the project settings, where none is named. -/
def settingsFile : String := "relsync.toml"

/-- The file with environment variables. -/
def environmentFile : String := ".env"

/-- What is said about a command line that is used wrongly. -/
def usage : List String :=
  ["Usage: " ++ programName ++ " [-c FILE] [-v] COMMAND",
    "",
    "Commands:",
    "  plan --existing FILE --incoming FILE [-p POLICY] [-r RELATION] [-o FILE]",
    "  list [-d DATABASE] -s SCHEMA",
    "  catalogs",
    "  models [-f FILE]"]

/-- The environment variables: those of the surroundings, then those of the file. -/
def Surroundings.variable? (s : Surroundings) (name : String) : Option String :=
  let fromFile := match s.read environmentFile with
    | .ok text => (EnvironmentFile.parse s.environment text).lookup name
    | .error _ => none
  (s.environment name).or fromFile

/-- The settings of the project; `none` when there is no file with settings. -/
def Surroundings.config? (s : Surroundings) (named : Option String) :
    Except ConfigError (Option Config) :=
  match named with
  | some path => (Config.load (s.read path)).map some
  | none =>
    match s.read settingsFile with
    | .error .notFound => .ok none
    | read => (Config.load read).map some

/-- Do what a command asks for. -/
def Command.run (s : Surroundings) (c : Config) (verbose : Bool) : Command → Outcome
  | .plan request => runPlan s c verbose request
  | .list _ _ => .done (runList s.variable? c verbose)
  | .catalogs => .done (runCatalogs c)
  | .models manifest => .done (runModels s c verbose manifest)

/-- What a run says about its settings. -/
def settingsNotices (c : Option Config) : List String :=
  (if c.isNone then ["No config file found, using defaults"] else [])
    ++ ["Using dialect: " ++ (c.getD {}).dialect.title]

/-- Do what an invocation asks for. -/
def Invocation.run (s : Surroundings) (i : Invocation) : Outcome :=
  match s.config? i.config with
  | .error e => .done (.failure e.message)
  | .ok c =>
    (i.command.run s (c.getD {}) i.verbose).announcedBy
      (if i.verbose then settingsNotices c else [])

/-- **Run** the program on the words of a command line. -/
def run (s : Surroundings) (words : List String) : Outcome :=
  match Request.parse words with
  | none => .done { errors := usage, status := .usage }
  | some .version => .done { output := [programName ++ " " ++ programVersion] }
  | some (.run i) => i.run s

/-- The files that a run may read. -/
def sources (words : List String) : List String :=
  match Request.parse words with
  | some (.run i) =>
    [environmentFile, i.config.getD settingsFile] ++
      match i.command with
      | .plan request => [request.existing, request.incoming]
      | .models manifest => [manifest]
      | .list _ _ | .catalogs => []
  | _ => []

end SchemaDrift.CommandLine
