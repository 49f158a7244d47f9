import SchemaDrift.CommandLine.Outcome
import SchemaDrift.CommandLine.Path

/-!
# Directories in memory

The files below one directory, by the names that lead to them. A run can be carried out on such
a directory without a disk. A name leads to a directory when it is the beginning of a name that
leads to a file; there are no empty directories. The directories above exist too, but nothing
else is known to lie in them.

## Main laws

* `read_write`: what is written into a file is what is read from it.
-/

namespace SchemaDrift.CommandLine

/-- The **files** below a directory; of two with the same names the first counts. -/
structure Directory where
  files : List (List String × String)
deriving DecidableEq, Repr

namespace Directory

/-- Files by their paths. -/
def ofList (files : List (String × String)) : Directory :=
  ⟨files.map fun f => ((Path.namesOf f.1).filter (· ≠ "."), f.2)⟩

/-- The place of the root. Other places are given by the names that lead to them. -/
def root : List String := ["/"]

/-- The place that a path starts from. -/
def origin (p : Path) : List String := if p.fromRoot then root else []

/-- Whether a place is the directory or lies above it: no names but `..` lead there. -/
def isAbove (place : List String) : Bool := place.all (· = "..")

/-- The place that holds another one; nothing holds the root. -/
def parent (place : List String) : List String :=
  if place = root then root
  else if isAbove place then ".." :: place
  else place.dropLast

/-- The text of a file. -/
def text? (d : Directory) (place : List String) : Option String := d.files.lookup place

/-- Whether a place is a directory. -/
def isDirectory (d : Directory) (place : List String) : Bool :=
  place = root || isAbove place || d.files.any fun f => place.isPrefixOf f.1 && place ≠ f.1

/-- Fail at a place that is no directory. -/
def enter (d : Directory) (place : List String) : Except FileError Unit :=
  if d.isDirectory place then .ok ()
  else .error (if (d.text? place).isSome then .notDirectory else .notFound)

/-- The place that a name leads to from a directory. -/
def child (place : List String) (name : String) : Except FileError (List String) :=
  if name = "." then .ok place
  else if name = ".." then .ok (parent place)
  else if Path.greatestName < name.utf8ByteSize then .error .nameTooLong
  else .ok (place ++ [name])

/-- The place that names lead to. A name leads on from a directory only. -/
def follow (d : Directory) (place : List String) : List String → Except FileError (List String)
  | [] => .ok place
  | name :: names => do
    d.enter place
    d.follow (← child place name) names

/-- **Read** a file. -/
def read (d : Directory) (path : String) : Except FileError String := do
  let p ← Path.parse path
  let place ← d.follow (origin p) p.names
  if p.toDirectory then d.enter place
  match d.text? place with
  | some s => .ok s
  | none => .error (if d.isDirectory place then .isDirectory else .notFound)

/-- **Write** a file, over an earlier one. The last name in a path to a directory does not
matter. -/
def write (d : Directory) (path text : String) : Except FileError Directory := do
  let p ← Path.parse path
  if p.toDirectory then
    d.enter (← d.follow (origin p) p.names.dropLast)
    .error .isDirectory
  else
    let place ← d.follow (origin p) p.names
    if d.isDirectory place then .error .isDirectory else .ok ⟨(place, text) :: d.files⟩

/-- Carry out an outcome on a directory. -/
def carryOut (d : Directory) : Outcome → Transcript × Directory
  | .done t => (t, d)
  | .save path text next =>
    match d.write path text with
    | .ok d' => (next (.ok ()), d')
    | .error e => (next (.error e), d)

/-! ### Laws -/

/-- A directory is entered. -/
theorem enter_eq_ok {d : Directory} {place : List String} :
    d.enter place = .ok () ↔ d.isDirectory place = true := by
  rw [enter]
  split <;> simp_all

/-- A walk that succeeds also succeeds where there are more directories. -/
theorem follow_mono {d d' : Directory}
    (h : ∀ place, d.isDirectory place = true → d'.isDirectory place = true)
    {place r : List String} {names : List String} (hr : d.follow place names = .ok r) :
    d'.follow place names = .ok r := by
  induction names generalizing place with
  | nil => exact hr
  | cons name names ih =>
    rw [follow] at hr ⊢
    cases he : d.enter place with
    | error e => simp [he, bind, Except.bind] at hr
    | ok =>
      rw [enter_eq_ok.2 (h place (enter_eq_ok.1 he))]
      rw [he] at hr
      cases hc : child place name with
      | error e => simp [hc, bind, Except.bind] at hr
      | ok next =>
        simp only [hc, bind, Except.bind] at hr ⊢
        exact ih hr

/-- A file more leaves every directory a directory. -/
theorem isDirectory_cons {d : Directory} {f : List String × String} {place : List String}
    (h : d.isDirectory place = true) : isDirectory ⟨f :: d.files⟩ place = true := by
  simp only [isDirectory, Bool.or_eq_true, List.any_cons] at h ⊢
  exact h.imp id .inr

/-- What is written into a file is what is read from it. -/
theorem read_write {d d' : Directory} {path text : String} (h : d.write path text = .ok d') :
    d'.read path = .ok text := by
  rw [write] at h
  rw [read]
  cases hp : Path.parse path with
  | error e => simp [hp, bind, Except.bind] at h
  | ok p =>
    simp only [hp, bind, Except.bind] at h ⊢
    split at h
    · split at h
      · cases h
      · split at h <;> cases h
    · next hd =>
      split at h
      · cases h
      · next place hl =>
        split at h
        · cases h
        · cases h
          rw [follow_mono (fun _ => isDirectory_cons) hl]
          simp [hd, text?]

end Directory

end SchemaDrift.CommandLine
