import SchemaDrift.CommandLine.Word

/-!
# Switches

The switches of the program, and the reading of one level of a command line: the switches that
are given with their values, in order, up to the name of a command or the end.

A switch that takes a value takes the value attached to it (`--name=value`, `-nvalue` or
`-n=value`), or else the next word, which has to be plain.
-/

namespace SchemaDrift.CommandLine

/-- The **switches** of the program. -/
inductive Switch where
  /-- The file with the project settings. -/
  | config
  /-- Say what is being done. -/
  | verbose
  /-- Say which version this is. -/
  | version
  /-- The file with the columns of the relation. -/
  | existing
  /-- The file with the columns of the next load. -/
  | incoming
  | policy
  | relation
  /-- The file for the report. -/
  | output
  | database
  | schema
  /-- The file with the manifest. -/
  | manifest
deriving DecidableEq, Repr

namespace Switch

/-- The long name of a switch. -/
def name : Switch → String
  | .config => "config"
  | .verbose => "verbose"
  | .version => "version"
  | .existing => "existing"
  | .incoming => "incoming"
  | .policy => "policy"
  | .relation => "relation"
  | .output => "output"
  | .database => "database"
  | .schema => "schema"
  | .manifest => "manifest"

/-- The letter of a switch. -/
def letter? : Switch → Option Char
  | .config => some 'c'
  | .verbose => some 'v'
  | .version => some 'V'
  | .existing => none
  | .incoming => none
  | .policy => some 'p'
  | .relation => some 'r'
  | .output => some 'o'
  | .database => some 'd'
  | .schema => some 's'
  | .manifest => some 'f'

/-- Whether a switch takes a value. -/
def takesValue : Switch → Bool
  | .verbose | .version => false
  | _ => true

/-- Whether the value of a switch is a path. -/
def takesPath : Switch → Bool
  | .config | .existing | .incoming | .output | .manifest => true
  | _ => false

end Switch

/-- A switch as it is given, with its value if it takes one. -/
structure Given where
  switch : Switch
  value : String := ""
deriving DecidableEq, Repr

/-- What the reading of one word leaves open. -/
inductive Pending where
  | nothing
  /-- The value of a switch is still to come. -/
  | valueOf (s : Switch)
  /-- The word cannot be read. -/
  | refused
deriving DecidableEq, Repr

/-- How the reading of a level ends. -/
inductive Ending where
  | finished
  /-- With a plain word, and the words after it. -/
  | command (name : String) (rest : List String)
  | refused
deriving DecidableEq, Repr

/-- Read a long switch. -/
def readLong (known : List Switch) (name : String) (value : Option String) :
    List Given × Pending :=
  match known.find? (·.name = name), value with
  | none, _ => ([], .refused)
  | some s, none => if s.takesValue then ([], .valueOf s) else ([⟨s, ""⟩], .nothing)
  | some s, some v => if s.takesValue then ([⟨s, v⟩], .nothing) else ([], .refused)

/-- Read a cluster of letters. The first switch among them that takes a value takes the letters
after it, less an equals sign in front. -/
def readCluster (known : List Switch) : List Char → List Given × Pending
  | [] => ([], .nothing)
  | c :: cs =>
    match known.find? (·.letter? = some c) with
    | none => ([], .refused)
    | some s =>
      if s.takesValue then
        match cs with
        | [] => ([], .valueOf s)
        | '=' :: value => ([⟨s, String.ofList value⟩], .nothing)
        | value => ([⟨s, String.ofList value⟩], .nothing)
      else
        let (given, pending) := readCluster known cs
        (⟨s, ""⟩ :: given, pending)

/-- Read a level, with something left open by the words before. -/
def readFrom (known : List Switch) : Pending → List String → List Given × Ending
  | .refused, _ => ([], .refused)
  | .nothing, [] => ([], .finished)
  | .valueOf _, [] => ([], .refused)
  | .valueOf s, w :: ws =>
    match Word.of w with
    | .plain value =>
      let (given, ending) := readFrom known .nothing ws
      (⟨s, value⟩ :: given, ending)
    | _ => ([], .refused)
  | .nothing, w :: ws =>
    match Word.of w with
    | .separator => ([], if ws.isEmpty then .finished else .refused)
    | .plain name => ([], .command name ws)
    | .long name value =>
      let (given, pending) := readLong known name value
      let (more, ending) := readFrom known pending ws
      (given ++ more, ending)
    | .cluster letters =>
      let (given, pending) := readCluster known letters
      let (more, ending) := readFrom known pending ws
      (given ++ more, ending)

/-- **Read** a level of a command line on which some switches are known. -/
def readLevel (known : List Switch) (words : List String) : List Given × Ending :=
  readFrom known .nothing words

end SchemaDrift.CommandLine
