import SchemaDrift.CommandLine.Run
import Std.Time.Format

/-!
# The program

The outer layer of the program: it reads the files that a run may look at, asks for the
environment and the time, carries the run out, and prints what it says.
-/

namespace SchemaDrift.Program

open CommandLine

/-- Whether the system reports a failure by its number, which may be negated. -/
def isNumber (number code : UInt32) : Bool := code = number || code = -number

/-- The failure of a file that the system reports. -/
def fileError : IO.Error → FileError
  | .noFileOrDirectory .. => .notFound
  | .permissionDenied .. => .permissionDenied
  | .inappropriateType _ code details =>
    if isNumber 20 code then .notDirectory
    else if isNumber 21 code then .isDirectory
    else .other details
  | .invalidArgument _ code details =>
    if isNumber 36 code then .nameTooLong else .other details
  | e => .other (toString e)

/-- Read the text of a file. -/
def readText (path : String) : IO (Except FileError String) := do
  match ← (IO.FS.readBinFile path).toBaseIO with
  | .error e => return .error (fileError e)
  | .ok bytes =>
    match String.fromUTF8? bytes with
    | some text => return .ok text
    | none => return .error .notText

/-- The time in words. -/
def currentTime : IO String := do
  let now ← Std.Time.Timestamp.now
  return (Std.Time.DateTime.ofTimestamp now .UTC).format "uuuu-MM-dd'T'HH:mm:ss.SSSSSSSSSxxx"

/-- What a run on given words looks at. Of the environment that is the settings of a connection:
nothing shows the value of one, but only whether it is there. -/
def surroundings (words : List String) : IO Surroundings := do
  let files ← (sources words).mapM fun path => do return (path, ← readText path)
  let settings ← snowflakeSettings.mapM fun s => do return (s.2, ← IO.getEnv s.2)
  return {
    read := fun path => (files.lookup path).getD (.error .notFound)
    environment := fun name => (settings.lookup name).join
    now := ← currentTime }

/-- Carry out an outcome. -/
def carryOut : Outcome → IO Transcript
  | .done t => return t
  | .save path text next => do
    match ← (IO.FS.writeFile path text).toBaseIO with
    | .ok () => return next (.ok ())
    | .error e => return next (.error (fileError e))

end SchemaDrift.Program

/-- Run the program on the words of its command line. -/
def main (words : List String) : IO UInt32 := do
  let outcome := SchemaDrift.CommandLine.run (← SchemaDrift.Program.surroundings words) words
  let transcript ← SchemaDrift.Program.carryOut outcome
  IO.print (SchemaDrift.CommandLine.linesText transcript.output)
  IO.eprint (SchemaDrift.CommandLine.linesText transcript.errors)
  return transcript.status.code.toUInt32
