import SchemaDrift.Column
import SchemaDrift.Listing.Row

/-!
# What a warehouse contains

What the answers of a warehouse say about the relations of a schema, the columns of a relation
and the schemas of a database. A schema or relation that is not there contains nothing; every
other failure stays a failure.
-/

namespace SchemaDrift.Listing

/-- The relations that a table lists, in its order. -/
def relationsOf (t : Table) : Except FetchError (List Relation) :=
  (Row.ofTable t).mapM Row.classify

/-- The relations of a schema. -/
def relations (answer : Except FetchError Table) : Except FetchError (List Relation) :=
  FetchError.whenMissing [] (answer.bind relationsOf)

/-- The relations that a table lists, and warnings about those of unknown kind. -/
def reportedRelationsOf (t : Table) : Except FetchError (List Relation × List Diagnostic) :=
  (relationsOf t).map fun rs => (rs, (Row.ofTable t).filterMap Row.unknownKind?)

/-- The relations of a schema, and warnings about those of unknown kind. -/
def reportedRelations (answer : Except FetchError Table) :
    Except FetchError (List Relation × List Diagnostic) :=
  FetchError.whenMissing ([], []) (answer.bind reportedRelationsOf)

/-- The columns of a relation. -/
def columns (answer : Except FetchError (List Column)) : Except FetchError (List Column) :=
  FetchError.whenMissing [] answer

/-- The names of the schemas of a database. Here every failure is one of the query. -/
def schemas (database : String) (answer : Except FetchError Table) :
    Except FetchError (List String) :=
  match answer with
  | .ok t =>
    let t := t.lowerNames
    .ok (t.rows.filterMap fun row => (t.cell row "name").cellText?)
  | .error e =>
    .error ⟨.query, "Database error while listing schemas in database \"" ++ database ++ "\"\n"
      ++ e.message⟩

end SchemaDrift.Listing
