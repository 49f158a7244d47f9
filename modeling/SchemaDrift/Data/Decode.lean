import SchemaDrift.Data.Value

/-!
# Reading records from data trees

A record is written as named fields, or as the list of its fields in order. Reading one is
strict about the names it knows and silent about all others:

* a known name may not occur twice;
* a **required** field must be there;
* an **optional** field may be absent under its name, or null, but a list must hold it;
* a **defaulted** field may be absent in either form, but is not null.

What the two text formats decide differently (whether a list may go on after the last field, and
what may stand under the name of a choice that has no content) is the record `Form`.
-/

namespace SchemaDrift

/-- What the text formats decide differently when a record is read. -/
structure Form where
  /-- Whether a record written as a list may hold more items than the record has fields. -/
  itemsMayTrail : Bool
  /-- What may stand under the name of a choice that has no content. -/
  isBare : Data → Bool

/-- JSON takes a list of fields as long as the record or shorter, and null for no content. -/
def Form.json : Form where
  itemsMayTrail := false
  isBare
    | .null => true
    | _ => false

/-- TOML takes a list of fields of any length, and an empty table or list for no content. -/
def Form.toml : Form where
  itemsMayTrail := true
  isBare
    | .record [] | .list [] => true
    | _ => false

/-- The fields of a record that is being read. -/
structure Fields where
  form : Form
  /-- Whether the record was written as a list. -/
  positional : Bool
  entries : List (String × Data)

namespace Data

/-! ### Plain values -/

/-- A text. -/
def text? : Data → Option String
  | .text s => some s
  | _ => none

/-- A truth value. -/
def bool? : Data → Option Bool
  | .bool b => some b
  | _ => none

/-- A natural number below a bound. -/
def natBelow? (bound : Nat) : Data → Option Nat
  | .number (.integer (.ofNat n)) => if n < bound then some n else none
  | _ => none

/-- A natural number of 64 bits. -/
def count? : Data → Option Nat := natBelow? (Nat.pow 2 64)

/-- A null, or something else that is read by `decode`. -/
def nullable? {α : Type} (decode : Data → Option α) : Data → Option (Option α)
  | .null => some none
  | d => (decode d).map some

/-- A list whose items are all read. -/
def list? {α : Type} (decode : Data → Option α) : Data → Option (List α)
  | .list items => items.mapM decode
  | _ => none

/-- Named entries whose values are all read; the last entry of a name counts. -/
def dictionary? {α : Type} (decode : Data → Option α) : Data → Option (Dictionary α)
  | .record fields =>
    (fields.mapM fun f => (decode f.2).map fun a => (f.1, a)).map Dictionary.ofList
  | _ => none

/-- A choice without content: its name as a text, or its name with something bare under it. -/
def choice? {α : Type} (form : Form) (names : List (String × α)) : Data → Option α
  | .text s => names.lookup s
  | .record [(name, content)] => if form.isBare content then names.lookup name else none
  | _ => none

/-! ### Records -/

/-- Whether none of `names` occurs twice among the fields. -/
def knownOnce (names : List String) (fields : List (String × Data)) : Bool :=
  names.all fun n => fields.countP (fun f => f.1 = n) ≤ 1

/-- The fields of a record with these field names, in either way of writing it. -/
def fields? (form : Form) (names : List String) : Data → Option Fields
  | .record fields => if knownOnce names fields then some ⟨form, false, fields⟩ else none
  | .list items =>
    if form.itemsMayTrail || items.length ≤ names.length then
      some ⟨form, true, names.zip items⟩
    else none
  | _ => none

/-- The fields of a record that is written with names only. -/
def namedFields? (form : Form) (names : List String) : Data → Option Fields
  | .record fields => if knownOnce names fields then some ⟨form, false, fields⟩ else none
  | _ => none

end Data

namespace Fields

variable {α : Type}

/-- What is written for a field. -/
def find? (f : Fields) (name : String) : Option Data := f.entries.lookup name

/-- A required field. -/
def required (f : Fields) (name : String) (decode : Data → Option α) : Option α :=
  (f.find? name).bind decode

/-- An optional field, which a list must hold. -/
def optional (f : Fields) (name : String) (decode : Data → Option α) : Option (Option α) :=
  match f.find? name with
  | some d => d.nullable? decode
  | none => if f.positional then none else some none

/-- A field with a default. -/
def defaulted (f : Fields) (name : String) (default : α) (decode : Data → Option α) : Option α :=
  match f.find? name with
  | some d => decode d
  | none => some default

/-- An optional field that may also be absent from a list. -/
def optionalOrAbsent (f : Fields) (name : String) (decode : Data → Option α) :
    Option (Option α) :=
  f.defaulted name none (Data.nullable? decode)

/-- The fields with other names. -/
def others (f : Fields) (names : List String) : List (String × Data) :=
  f.entries.filter fun e => !names.contains e.1

end Fields

end SchemaDrift
