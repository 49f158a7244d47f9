import SchemaDrift.FileError

/-!
# Paths

A path leads from a directory to a file by names with slashes between them. It may start with a
slash, and then leads from the root. A slash at its end says that it leads to a directory.
Several slashes in a row count as one.
-/

namespace SchemaDrift.CommandLine

/-- A **path**. -/
structure Path where
  fromRoot : Bool
  names : List String
  /-- Whether the path ends in a slash. -/
  toDirectory : Bool
deriving DecidableEq, Repr

namespace Path

/-- The greatest number of bytes in a name. -/
def greatestName : Nat := 255

/-- The greatest number of bytes in a path. -/
def greatestPath : Nat := 4095

/-- The names in the text of a path. -/
def namesOf (s : String) : List String :=
  ((s.toList.splitOn '/').map String.ofList).filter (· ≠ "")

/-- **Read** a path. -/
def parse (s : String) : Except FileError Path :=
  if '\x00' ∈ s.toList then .error .nulInName
  else if s = "" then .error .notFound
  else if greatestPath < s.utf8ByteSize then .error .nameTooLong
  else .ok ⟨s.startsWith "/", namesOf s, s.endsWith "/"⟩

end Path

end SchemaDrift.CommandLine
