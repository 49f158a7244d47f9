import SchemaDrift.CommandLine.CatalogTable

/-!
# The command `models`

For each incremental model of a manifest a line says under which policy, in which format and
into which table it is loaded, or why this cannot be told. The run fails exactly when it cannot
be told for some model.
-/

namespace SchemaDrift.CommandLine

/-- Where a model is loaded, and under which policy. -/
structure ModelTarget where
  policy : Policy
  /-- The dotted name of the table. -/
  table : String
  /-- The catalog that the table is placed in. -/
  catalog : Option String
deriving DecidableEq, Repr

/-- Find out where a model is loaded. Its policy is looked at first. -/
def ModelTarget.of (r : Registry) (m : Model) : Except CatalogError ModelTarget := do
  let policy ← m.policy.mapError .configuration
  match ← r.place m with
  | some p => return ⟨policy, p.relation.qualifiedName, some p.catalogName⟩
  | none => return ⟨policy, m.qualifiedName, none⟩

/-- The table of a model for a reader. -/
def ModelTarget.display (t : ModelTarget) : String :=
  match t.catalog with
  | some catalog => t.table ++ " (" ++ catalog ++ ")"
  | none => t.table

/-- Why it cannot be told where a model is loaded, for a reader. -/
def modelFailureText (e : CatalogError) : String :=
  match e.diagnostic? with
  | some d => d.code.text ++ ": " ++ d.message
  | none => e.message

/-- A model for a reader. -/
def modelLine (m : Model) : Except CatalogError ModelTarget → String
  | .ok t =>
    "  " ++ padded 40 m.uniqueId ++ " " ++ padded 20 t.policy.text ++ " "
      ++ padded 8 m.runFormat ++ " " ++ t.display
  | .error e => "  " ++ padded 40 m.uniqueId ++ " ERROR " ++ modelFailureText e

/-- The models that are listed, each with what is found out about it. -/
def modelTargets (r : Registry) (m : Manifest) :
    List (Model × Except CatalogError ModelTarget) :=
  (m.incrementalModels.map Model.ofNode).map fun model => (model, ModelTarget.of r model)

/-- Whether nothing is found out about a model. -/
def isFailure (t : Model × Except CatalogError ModelTarget) : Bool := !t.2.isOk

/-- List the models of a manifest. -/
def listModels (r : Registry) (m : Manifest) : Transcript where
  output := (modelTargets r m).map fun t => modelLine t.1 t.2
  status := if (modelTargets r m).any isFailure then .failure else .success

/-- **List** the models of the manifest in a file. -/
def runModels (s : Surroundings) (c : Config) (verbose : Bool) (path : String) : Transcript :=
  let transcript : Transcript :=
    match Manifest.load path (s.read path) with
    | .error e => .failure ("Failed to load manifest: " ++ e.message)
    | .ok m =>
      match projectRegistry c with
      | .error e => .failure e.message
      | .ok r => listModels r m
  transcript.announcedBy (if verbose then ["Loading manifest from: " ++ path] else [])

end SchemaDrift.CommandLine
