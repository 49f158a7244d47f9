import SchemaDrift.Data.Basic

/-!
# The tree of a TOML document

A document is built up statement by statement. Each table in the tree remembers how it came to
be, because that decides what may be done with it later:

* an **implicit** table was only passed through on the way to another one; a header may still
  open it, once;
* a **dotted** table was made by the points in a key; only such keys may add to it.

An array of tables stands for its last element wherever a path passes through it.
-/

namespace SchemaDrift.Toml

/-- An **item** of a document. -/
inductive Item where
  | value (d : Data)
  | table (isImplicit isDotted : Bool) (entries : List (String × Item))
  /-- An array of tables, the last one first. -/
  | tables (lastFirst : List Item)

namespace Item

/-- A table that a document opens. -/
def newTable : Item := .table false false []

/-- Write an item under a name, over an earlier one. -/
def put (name : String) (item : Item) : List (String × Item) → List (String × Item)
  | [] => [(name, item)]
  | e :: es => if e.1 = name then (name, item) :: es else e :: put name item es

/-- Change the table at the end of a path. Tables that are missing on the way are made; `dotted`
says whether the path comes from the points in a key. -/
def alter (dotted : Bool) (change : Item → Option Item) : List String → Item → Option Item
  | [], item => change item
  | name :: path, .table isImplicit isDotted entries => do
    let child ← match entries.lookup name with
      | none => alter dotted change path (.table true dotted [])
      | some (.table childImplicit childDotted childEntries) =>
        if dotted && !childImplicit then none
        else alter dotted change path (.table childImplicit childDotted childEntries)
      | some (.tables (last :: earlier)) =>
        (alter dotted change path last).map fun last => .tables (last :: earlier)
      | some _ => none
    return .table isImplicit isDotted (put name child entries)
  | _ :: _, _ => none

/-- Add a value to a table. A dotted table takes values from dotted keys only, and any other
table from plain ones; no name is given twice. -/
def addValue (isDottedKey : Bool) (name : String) (d : Data) : Item → Option Item
  | .table isImplicit isDotted entries =>
    if isDotted = isDottedKey && (entries.lookup name).isNone then
      some (.table isImplicit isDotted (put name (.value d) entries))
    else none
  | _ => none

/-- Open a table. One that was passed through may be opened; any other may not be there yet. -/
def openTable (name : String) : Item → Option Item
  | .table isImplicit isDotted entries =>
    match entries.lookup name with
    | none => some (.table isImplicit isDotted (put name newTable entries))
    | some (.table true false inner) =>
      some (.table isImplicit isDotted (put name (.table false false inner) entries))
    | some _ => none
  | _ => none

/-- Open the next element of an array of tables. -/
def openElement (name : String) : Item → Option Item
  | .table isImplicit isDotted entries =>
    match entries.lookup name with
    | none => some (.table isImplicit isDotted (put name (.tables [newTable]) entries))
    | some (.tables elements) =>
      some (.table isImplicit isDotted (put name (.tables (newTable :: elements)) entries))
    | some _ => none
  | _ => none

/-- Give a value to a key, below a table. -/
def assign (key : List String) (d : Data) (item : Item) : Option Item :=
  match key.getLast? with
  | none => none
  | some name =>
    alter true (addValue (key.dropLast ≠ []) name d) key.dropLast item

mutual

/-- The data that an item says. -/
def toData : Item → Data
  | .value d => d
  | .table _ _ entries => .record (entriesToData entries)
  | .tables elements => .list (elementsToData elements).reverse

/-- The data that the entries of a table say. -/
def entriesToData : List (String × Item) → List (String × Data)
  | [] => []
  | (name, item) :: es => (name, item.toData) :: entriesToData es

/-- The data that the elements of an array say. -/
def elementsToData : List Item → List Data
  | [] => []
  | item :: items => item.toData :: elementsToData items

end

end Item

end SchemaDrift.Toml
