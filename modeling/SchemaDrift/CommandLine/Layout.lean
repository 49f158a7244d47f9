import SchemaDrift.Diagnostic

/-!
# The layout of what is printed

Rules, headings, columns of text and findings, as lines.
-/

namespace SchemaDrift.CommandLine

/-- A line across. -/
def rule : String := String.ofList (List.replicate 60 '=')

/-- A heading between two lines across. -/
def heading (title : String) : List String := ["", rule, title, rule, ""]

/-- A text filled up with spaces on the right to a number of characters. -/
def padded (width : Nat) (s : String) : String :=
  String.ofList (s.toList ++ List.replicate (width - s.toList.length) ' ')

/-- A severity for a reader. -/
def severityTag : Severity → String
  | .error => "ERROR"
  | .warn => "WARN"
  | .info => "INFO"

/-- A finding for a reader. Where two things are compared, both follow. -/
def diagnosticLines (d : Diagnostic) : List String :=
  ("  [" ++ severityTag d.severity ++ "] " ++ d.code.text ++ ": " ++ d.message) ::
    match d.expected, d.actual with
    | some expected, some actual => ["    Existing: " ++ expected, "    Incoming: " ++ actual]
    | _, _ => []

end SchemaDrift.CommandLine
