import SchemaDrift.Decimal.Binary64

/-!
# Data trees

A `Data` tree is what a JSON or TOML text says, before it is known which record it stands for.
Records keep their fields in the order written, repeated names included, because a reader of
records decides what to do about them.

A text may follow its grammar and still say nothing in one place: a number beyond the finite
numbers, half of a surrogate pair, a value nested too deeply, a date. Such a place is
`unreadable`. Whoever ignores that place is not disturbed by it; whoever needs it fails.
-/

namespace SchemaDrift

/-- A number: an integer, or a finite binary64 number. -/
inductive Number where
  | integer (n : Int)
  | float (x : Binary64)
deriving DecidableEq, Repr

/-- A **data tree**. -/
inductive Data where
  | null
  | bool (b : Bool)
  | number (n : Number)
  | text (s : String)
  | list (items : List Data)
  | record (fields : List (String × Data))
  | unreadable

instance : Inhabited Data := ⟨.null⟩

namespace Data

/-! ### Equality -/

mutual

/-- Whether two data trees are the same. -/
def beq : Data → Data → Bool
  | .null, .null => true
  | .bool a, .bool b => a = b
  | .number m, .number n => m = n
  | .text s, .text t => s = t
  | .list ds, .list es => beqItems ds es
  | .record fs, .record gs => beqFields fs gs
  | .unreadable, .unreadable => true
  | _, _ => false

/-- Whether two lists have the same items. -/
def beqItems : List Data → List Data → Bool
  | [], [] => true
  | d :: ds, e :: es => d.beq e && beqItems ds es
  | _, _ => false

/-- Whether two records have the same fields, in the same order. -/
def beqFields : List (String × Data) → List (String × Data) → Bool
  | [], [] => true
  | (m, d) :: fs, (n, e) :: gs => m = n && d.beq e && beqFields fs gs
  | _, _ => false

end

mutual

theorem beq_iff (d e : Data) : d.beq e = true ↔ d = e := by
  cases d <;> cases e <;> simp [beq, beqItems_iff, beqFields_iff]

theorem beqItems_iff (ds es : List Data) : beqItems ds es = true ↔ ds = es := by
  cases ds <;> cases es <;> simp [beqItems, beq_iff, beqItems_iff]

theorem beqFields_iff (fs gs : List (String × Data)) : beqFields fs gs = true ↔ fs = gs := by
  cases fs with
  | nil => cases gs <;> simp [beqFields]
  | cons f fs =>
    cases gs with
    | nil => simp [beqFields]
    | cons g gs =>
      obtain ⟨m, d⟩ := f
      obtain ⟨n, e⟩ := g
      simp [beqFields, beq_iff d e, beqFields_iff fs gs]

end

-- Written out, since equality is not derived for a tree whose children stand in lists.
instance : DecidableEq Data := fun d e => decidable_of_iff _ (beq_iff d e)

/-! ### Writing -/

/-- A natural number as data. -/
def ofNat (n : Nat) : Data := .number (.integer n)

/-- An optional part as data; an absent one is null. -/
def ofOption {α : Type} (encode : α → Data) : Option α → Data
  | some a => encode a
  | none => .null

/-- An optional text as data; an absent one is null. -/
def ofOptionText : Option String → Data := ofOption .text

/-- A list of texts as data. -/
def ofTexts (ss : List String) : Data := .list (ss.map .text)

/-- A field that is left out when absent. -/
def optionalField (name : String) : Option Data → List (String × Data)
  | some d => [(name, d)]
  | none => []

/-- Whether data is null. -/
def isNull : Data → Bool
  | .null => true
  | _ => false

mutual

/-- Data without the fields that are null, at any depth. -/
def withoutNulls : Data → Data
  | .list items => .list (itemsWithoutNulls items)
  | .record fields => .record (fieldsWithoutNulls fields)
  | .null => .null
  | .bool b => .bool b
  | .number n => .number n
  | .text s => .text s
  | .unreadable => .unreadable

/-- Items without the fields that are null in them. -/
def itemsWithoutNulls : List Data → List Data
  | [] => []
  | d :: ds => d.withoutNulls :: itemsWithoutNulls ds

/-- The fields that are not null. -/
def fieldsWithoutNulls : List (String × Data) → List (String × Data)
  | [] => []
  | (name, d) :: fs =>
    if d.isNull then fieldsWithoutNulls fs else (name, d.withoutNulls) :: fieldsWithoutNulls fs

end

end Data

end SchemaDrift
