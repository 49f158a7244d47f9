import SchemaDrift.Column
import SchemaDrift.Listing.FetchError
import SchemaDrift.Listing.Table
import SchemaDrift.Text.Occurrence

/-!
# Answers of Snowflake

What an error message of Snowflake says about a failure, and the columns in the answer to a
question about columns.
-/

namespace SchemaDrift.Snowflake

/-! ### Error messages -/

/-- Which error messages say that an object is not there. -/
inductive MissingSignal where
  /-- Those with the error code. -/
  | errorCode
  /-- Those with the error code, and those that speak of authorization. -/
  | errorCodeOrMessage
  /-- None. -/
  | never
deriving DecidableEq, Repr

/-- Whether an error message says that an object is not there. -/
def saysMissing (signal : MissingSignal) (message : String) : Bool :=
  let hasCode := Text.mentions message "002043 (02000)"
  match signal with
  | .errorCode => hasCode
  | .errorCodeOrMessage => hasCode || Text.mentions message "does not exist or not authorized"
  | .never => false

/-- The failure that an error message about an object reports. -/
def failureOf (message object : String) (signal : MissingSignal) : FetchError :=
  if saysMissing signal message then ⟨.objectNotFound, object⟩
  else if Text.mentions message "Insufficient privileges" then
    ⟨.permissionDenied, "Cannot access " ++ object ++ ": " ++ message⟩
  else if Text.mentions message "Incorrect username or password" then ⟨.authentication, message⟩
  else ⟨.query, message⟩

/-- The failure of every connection: there is no client for Snowflake here. -/
def noClient : FetchError :=
  ⟨.configuration,
    "Snowflake support not compiled. Rebuild with: cargo build --features snowflake"⟩

/-! ### Columns -/

/-- The column in a row of an answer; a position that is no number is that of the row. -/
def columnOf (t : Table) (index : Nat) (row : List Value) : Except FetchError Column := do
  let some name := (t.cell row "column_name").cellText?
    | throw ⟨.invalidResponse, "Missing COLUMN_NAME"⟩
  let some dataType := (t.cell row "data_type").cellText?
    | throw ⟨.invalidResponse, "Missing DATA_TYPE"⟩
  return ⟨name, dataType, (t.cell row "ordinal_position").count?.getD (index + 1)⟩

/-- The columns in an answer. -/
def columnsOf (t : Table) : Except FetchError (List Column) :=
  let t := t.lowerNames
  (t.rows.mapIdx fun i row => (i, row)).mapM fun r => columnOf t r.1 r.2

end SchemaDrift.Snowflake
