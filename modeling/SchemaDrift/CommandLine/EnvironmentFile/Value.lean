import SchemaDrift.Text.Alphanumeric

/-!
# Values of environment variables

A value may be quoted, wholly or in part. Within single quotes every character stands for
itself. Elsewhere a backslash stands before a character that is meant itself, or before `n` for
the end of a line, and a dollar sign before the name of a variable, whose value takes the place
of both. The name goes as far as its letters and digits, or is put in braces. Outside quotes a
blank ends the value, and only a comment may follow.

## Main laws

* `readValue?_of_ordinary`: a text without special characters is its own value.
-/

namespace SchemaDrift.CommandLine.EnvironmentFile

/-- What the next character of a value belongs to. What stands in double quotes is `quoted`. -/
inductive Part where
  | text (quoted : Bool)
  | singleQuotes
  /-- The character behind a backslash. -/
  | escape (quoted : Bool)
  /-- The name of a variable, of which this has been read. -/
  | name (quoted : Bool) (read : String)
  | braces (quoted : Bool) (read : String)
  /-- The blanks behind the value. -/
  | blanks
  | comment
deriving DecidableEq, Repr

/-- A value that is being read: its text so far, and the part that follows. -/
structure Reading where
  text : String
  part : Part
deriving DecidableEq, Repr

namespace Reading

/-- A character of the text. -/
def push (r : Reading) (c : Char) (quoted : Bool) : Reading := ⟨r.text.push c, .text quoted⟩

/-- The next character of the text outside single quotes. -/
def textStep (r : Reading) (quoted : Bool) (c : Char) : Reading :=
  if c = '$' then { r with part := .name quoted "" }
  else if c = '\\' then { r with part := .escape quoted }
  else if c = '"' then { r with part := .text !quoted }
  else if quoted then r.push c quoted
  else if c = '\'' then { r with part := .singleQuotes }
  else if c = ' ' ∨ c = '\t' then { r with part := .blanks }
  else r.push c quoted

/-- Take the next character; `valueOf` gives the values of variables. -/
def step (valueOf : String → String) (r : Reading) (c : Char) : Option Reading :=
  match r.part with
  | .text quoted => some (r.textStep quoted c)
  | .singleQuotes =>
    some (if c = '\'' then { r with part := .text false } else { r with text := r.text.push c })
  | .escape quoted =>
    if c ∈ ['\\', '\'', '"', '$', ' '] then some (r.push c quoted)
    else if c = 'n' then some (r.push '\n' quoted)
    else none
  | .name quoted read =>
    if Text.isAlphanumeric c then some { r with part := .name quoted (read.push c) }
    else if c = '\x7b' ∧ read = "" then some { r with part := .braces quoted "" }
    else
      let text := r.text ++ valueOf read
      some (if c = '$' then ⟨text, .name quoted ""⟩ else ⟨text.push c, .text quoted⟩)
  | .braces quoted read =>
    some (if c = '\x7d' then ⟨r.text ++ valueOf read, .text quoted⟩
      else { r with part := .braces quoted (read.push c) })
  | .blanks =>
    if c = ' ' ∨ c = '\t' then some r
    else if c = '#' then some { r with part := .comment }
    else none
  | .comment => some r

/-- The value at the end of the characters. Quotes and braces have to be closed. -/
def finish (valueOf : String → String) (r : Reading) : Option String :=
  match r.part with
  | .text false | .escape false | .blanks | .comment => some r.text
  | .name false read => some (r.text ++ valueOf read)
  | .text true | .escape true | .name true _ | .singleQuotes | .braces _ _ => none

end Reading

/-- **Read** a value, where `valueOf` gives the values of variables. -/
def readValue? (valueOf : String → String) (cs : List Char) : Option String := do
  let r ← cs.foldlM (Reading.step valueOf) ⟨"", .text false⟩
  r.finish valueOf

/-- An ordinary character, which stands for itself outside quotes. -/
def isOrdinary (c : Char) : Bool := c ∉ ['$', '\\', '"', '\'', ' ', '\t']

/-- Ordinary characters are added to the text. -/
private theorem foldlM_step_of_ordinary (valueOf : String → String) {cs : List Char}
    (h : ∀ c ∈ cs, isOrdinary c = true) (s : String) :
    cs.foldlM (Reading.step valueOf) ⟨s, .text false⟩
      = some ⟨s ++ String.ofList cs, .text false⟩ := by
  induction cs generalizing s with
  | nil => simp
  | cons c cs ih =>
    have hc := h c (.head _)
    simp only [isOrdinary, List.mem_cons, List.not_mem_nil, or_false, not_or,
      decide_eq_true_eq] at hc
    obtain ⟨h₁, h₂, h₃, h₄, h₅, h₆⟩ := hc
    have hs : Reading.step valueOf ⟨s, .text false⟩ c = some ⟨s.push c, .text false⟩ := by
      simp [Reading.step, Reading.textStep, Reading.push, h₁, h₂, h₃, h₄, h₅, h₆]
    rw [List.foldlM_cons, hs, Option.bind_eq_bind, Option.bind_some,
      ih fun d hd => h d (.tail _ hd)]
    simp [← String.toList_inj]

/-- A text without special characters is its own value. -/
theorem readValue?_of_ordinary (valueOf : String → String) {cs : List Char}
    (h : ∀ c ∈ cs, isOrdinary c = true) : readValue? valueOf cs = some (String.ofList cs) := by
  rw [readValue?, foldlM_step_of_ordinary valueOf h]
  simp [Reading.finish]

end SchemaDrift.CommandLine.EnvironmentFile
