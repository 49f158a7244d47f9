import SchemaDrift.Data.Decode

/-!
# Diagnostics

A diagnostic reports one finding: a stable code, a severity, a message, and what it is about.
Severities are ordered; a project can override the severity of a code.
-/

namespace SchemaDrift

/-- The kinds of findings. Their names are stable. -/
inductive DiagnosticCode where
  /-- The load brings a column that the table lacks. -/
  | driftColumnAdded
  /-- The table has a column that the load does not bring. -/
  | driftColumnRemoved
  /-- A column has one type in the table and another in the load. -/
  | driftTypeChange
  /-- The columns have drifted under the policy that refuses drift. -/
  | schemaOutOfSync
  /-- A listed object is of a kind that is not known. -/
  | relationKindUnknown
  /-- A model names a catalog integration that is not registered. -/
  | catalogIntegrationNotFound
  | info
  | warning
deriving DecidableEq, Repr

namespace DiagnosticCode

/-- The stable name of a code. -/
def text : DiagnosticCode → String
  | .driftColumnAdded => "DRIFT_COLUMN_ADDED"
  | .driftColumnRemoved => "DRIFT_COLUMN_REMOVED"
  | .driftTypeChange => "DRIFT_TYPE_CHANGE"
  | .schemaOutOfSync => "SCHEMA_OUT_OF_SYNC"
  | .relationKindUnknown => "RELATION_KIND_UNKNOWN"
  | .catalogIntegrationNotFound => "CATALOG_INTEGRATION_NOT_FOUND"
  | .info => "INFO"
  | .warning => "WARNING"

/-- All codes. -/
def all : List DiagnosticCode :=
  [.driftColumnAdded, .driftColumnRemoved, .driftTypeChange, .schemaOutOfSync,
    .relationKindUnknown, .catalogIntegrationNotFound, .info, .warning]

/-- Read a code. -/
def ofData? (form : Form) (d : Data) : Option DiagnosticCode :=
  d.choice? form (all.map fun c => (c.text, c))

end DiagnosticCode

/-- How serious a finding is. -/
inductive Severity where
  | info
  | warn
  | error
deriving DecidableEq, Repr

namespace Severity

/-- The name of a severity. -/
def text : Severity → String
  | .info => "info"
  | .warn => "warn"
  | .error => "error"

/-- All severities, the least serious first. -/
def all : List Severity := [.info, .warn, .error]

/-- The place of a severity in their order. -/
def level : Severity → Nat
  | .info => 0
  | .warn => 1
  | .error => 2

instance : LT Severity := ⟨fun a b => a.level < b.level⟩

instance (a b : Severity) : Decidable (a < b) := inferInstanceAs (Decidable (a.level < b.level))

/-- Read a severity. -/
def ofData? (form : Form) (d : Data) : Option Severity :=
  d.choice? form (all.map fun s => (s.text, s))

end Severity

/-- A **diagnostic**. -/
structure Diagnostic where
  code : DiagnosticCode
  severity : Severity
  message : String
  /-- The relation it is about. -/
  relation : Option String := none
  /-- What was expected, where two things are compared. -/
  expected : Option String := none
  /-- What was found, where two things are compared. -/
  actual : Option String := none
  /-- The columns it is about. -/
  columns : List String := []
deriving DecidableEq, Repr

namespace Diagnostic

/-- A diagnostic as data: without the relation when there is none, without the columns when
there are none, and always with what was expected and found. -/
def toData (d : Diagnostic) : Data :=
  .record ([("code", .text d.code.text), ("severity", .text d.severity.text),
      ("message", .text d.message)]
    ++ Data.optionalField "relation" (d.relation.map .text)
    ++ [("expected", .ofOptionText d.expected), ("actual", .ofOptionText d.actual)]
    ++ if d.columns.isEmpty then [] else [("columns", .ofTexts d.columns)])

/-- Read a diagnostic. -/
def ofData? (form : Form) (d : Data) : Option Diagnostic := do
  let f ← d.fields? form
    ["code", "severity", "message", "relation", "expected", "actual", "columns"]
  let code ← f.required "code" (DiagnosticCode.ofData? form)
  let severity ← f.required "severity" (Severity.ofData? form)
  let message ← f.required "message" Data.text?
  let relation ← f.optionalOrAbsent "relation" Data.text?
  let expected ← f.optional "expected" Data.text?
  let actual ← f.optional "actual" Data.text?
  let columns ← f.defaulted "columns" [] (Data.list? Data.text?)
  return { code, severity, message, relation, expected, actual, columns }

end Diagnostic

/-! ### Overrides -/

/-- The severities that a project gives to codes, by the names of the codes. -/
structure SeverityOverrides where
  entries : Dictionary Severity := .empty
deriving DecidableEq

namespace SeverityOverrides

/-- The severity of a code, or a default. -/
def severityOf (o : SeverityOverrides) (code : DiagnosticCode) (default : Severity) : Severity :=
  (o.entries.find? code.text).getD default

/-- Override the severity of a code. -/
def set (o : SeverityOverrides) (code : DiagnosticCode) (severity : Severity) :
    SeverityOverrides :=
  ⟨o.entries.insert code.text severity⟩

/-- A diagnostic with the severity that the project gives to its code. -/
def applyTo (o : SeverityOverrides) (d : Diagnostic) : Diagnostic :=
  { d with severity := o.severityOf d.code d.severity }

@[simp] theorem severityOf_set (o : SeverityOverrides) (code : DiagnosticCode)
    (severity default : Severity) : (o.set code severity).severityOf code default = severity := by
  simp [severityOf, set]

end SeverityOverrides

end SchemaDrift
