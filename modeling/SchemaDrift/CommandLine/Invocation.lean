import SchemaDrift.CommandLine.Switch
import SchemaDrift.Policy

/-!
# Invocations

What a command line asks for. The switches of the whole program may stand before the name of
the command or after it; what stands after it goes first. No switch is given twice on one side.

A question for the version is answered as soon as it is read: whatever follows it is not looked
at.
-/

namespace SchemaDrift.CommandLine

/-- What is asked of `plan`. -/
structure PlanRequest where
  /-- The file with the columns of the relation. -/
  existing : String
  /-- The file with the columns of the next load. -/
  incoming : String
  policy : Policy := default
  /-- The name of the relation in messages and in the report. -/
  relation : String := "relation"
  /-- The file for the report. -/
  output : String := "report.json"
deriving DecidableEq, Repr

/-- A **command**. -/
inductive Command where
  /-- Plan what to do about the drift between two lists of columns. -/
  | plan (request : PlanRequest)
  /-- List the relations of a schema of the warehouse. -/
  | list (database : Option String) (schema : String)
  /-- Show the catalog integrations of the project. -/
  | catalogs
  /-- Show where the incremental models of a manifest are loaded. -/
  | models (manifest : String)
deriving DecidableEq, Repr

/-- An **invocation** of the program. -/
structure Invocation where
  /-- The file with the project settings, if it is named. -/
  config : Option String
  verbose : Bool
  command : Command
deriving DecidableEq, Repr

/-- What a command line asks for. -/
inductive Request where
  | version
  | run (invocation : Invocation)
deriving DecidableEq, Repr

/-! ### The switches of a level -/

/-- Whether a switch can have its value. -/
def Given.isValid (g : Given) : Bool :=
  !(g.switch.takesPath && g.value.isEmpty)
    && (g.switch ≠ .policy || (Policy.parse g.value).toOption.isSome)

/-- What the switches of a level come to. -/
inductive Settled where
  | version
  | values (given : List Given)
  | refused
deriving DecidableEq, Repr

/-- Look at switches in order, after those seen: each has its value and is new. -/
def settle (seen : List Given) : List Given → Settled
  | [] => .values seen
  | g :: gs =>
    if g.switch = .version then .version
    else if seen.any (·.switch = g.switch) || !g.isValid then .refused
    else settle (seen ++ [g]) gs

/-- The value of a switch. -/
def valueOf? (s : Switch) (given : List Given) : Option String :=
  (given.find? (·.switch = s)).map (·.value)

/-! ### Commands -/

/-- The names of commands. -/
inductive Verb where
  | plan
  | list
  | catalogs
  | models
deriving DecidableEq, Repr

namespace Verb

/-- The name of a command. -/
def name : Verb → String
  | .plan => "plan"
  | .list => "list"
  | .catalogs => "catalogs"
  | .models => "models"

/-- All commands. -/
def all : List Verb := [.plan, .list, .catalogs, .models]

/-- The switches of a command. -/
def switches : Verb → List Switch
  | .plan => [.existing, .incoming, .policy, .relation, .output]
  | .list => [.database, .schema]
  | .catalogs => []
  | .models => [.manifest]

/-- The command with given switches, if none is missing. -/
def command? (given : List Given) : Verb → Option Command
  | .plan => do
    let existing ← valueOf? .existing given
    let incoming ← valueOf? .incoming given
    let policy ← match valueOf? .policy given with
      | some s => (Policy.parse s).toOption
      | none => some default
    return .plan {
      existing, incoming, policy
      relation := (valueOf? .relation given).getD "relation"
      output := (valueOf? .output given).getD "report.json" }
  | .list => do
    return .list (valueOf? .database given) (← valueOf? .schema given)
  | .catalogs => some .catalogs
  | .models => some (.models ((valueOf? .manifest given).getD "target/manifest.json"))

end Verb

/-! ### Command lines -/

/-- The switches of the whole program. -/
def commonSwitches : List Switch := [.config, .verbose]

/-- The invocation of a command with the words after its name, and with the switches of the
whole program before it. -/
def invocation? (before : List Given) (name : String) (rest : List String) :
    Option Invocation := do
  let verb ← Verb.all.find? (·.name = name)
  let .values given := settle [] (readLevel (commonSwitches ++ verb.switches) rest).1 | none
  let .finished := (readLevel (commonSwitches ++ verb.switches) rest).2 | none
  return {
    config := (valueOf? .config given).or (valueOf? .config before)
    verbose := (given ++ before).any (·.switch = .verbose)
    command := ← verb.command? given }

/-- **Read** the words of a command line; `none` when they are used wrongly. -/
def Request.parse (words : List String) : Option Request :=
  match settle [] (readLevel (.version :: commonSwitches) words).1 with
  | .version => some .version
  | .refused => none
  | .values before =>
    match (readLevel (.version :: commonSwitches) words).2 with
    | .command name rest => (invocation? before name rest).map .run
    | _ => none

end SchemaDrift.CommandLine
