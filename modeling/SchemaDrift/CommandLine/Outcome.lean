import SchemaDrift.FileError

/-!
# What a run says and does

A run looks at its surroundings and comes to an outcome. It either is done, or it saves a file
and then is done, in a way that depends on whether the file could be saved. Files are written
nowhere else.
-/

namespace SchemaDrift.CommandLine

/-- How a run ends. -/
inductive ExitStatus where
  | success
  | failure
  /-- The command line is used wrongly. -/
  | usage
deriving DecidableEq, Repr

/-- The number that stands for an end. -/
def ExitStatus.code : ExitStatus → Nat
  | .success => 0
  | .failure => 1
  | .usage => 2

/-- What a run says, line by line, and how it ends. -/
structure Transcript where
  /-- The lines on standard output. -/
  output : List String := []
  /-- The lines on standard error. -/
  errors : List String := []
  status : ExitStatus := .success
deriving DecidableEq, Repr

/-- Lines as text: each has an end. -/
def linesText (lines : List String) : String := String.join (lines.map (· ++ "\n"))

namespace Transcript

/-- The end of a run that fails for a reason. -/
def failure (reason : String) : Transcript :=
  { errors := ["Error: " ++ reason], status := .failure }

/-- A transcript after lines on standard error. -/
def announcedBy (notices : List String) (t : Transcript) : Transcript :=
  { t with errors := notices ++ t.errors }

/-- A transcript after lines on standard output. -/
def headedBy (lines : List String) (t : Transcript) : Transcript :=
  { t with output := lines ++ t.output }

end Transcript

/-- What a run looks at. -/
structure Surroundings where
  /-- What reading a file gives. -/
  read : String → Except FileError String
  /-- The value of an environment variable. -/
  environment : String → Option String
  /-- The time. -/
  now : String

/-- What a run comes to. -/
inductive Outcome where
  | done (t : Transcript)
  /-- Save a text in a file, and go on with the result. -/
  | save (path text : String) (next : Except FileError Unit → Transcript)

namespace Outcome

/-- Change the transcript of an outcome. -/
def map (f : Transcript → Transcript) : Outcome → Outcome
  | .done t => .done (f t)
  | .save path text next => .save path text (f ∘ next)

/-- An outcome after lines on standard error. -/
def announcedBy (notices : List String) (o : Outcome) : Outcome := o.map (·.announcedBy notices)

end Outcome

end SchemaDrift.CommandLine
