/-!
# Failures of a warehouse

A warehouse that is asked for something may fail in seven ways. One of them, that the object is
not there, often counts as an answer: nothing is there.
-/

namespace SchemaDrift

/-- The ways in which a warehouse fails. -/
inductive FetchFailure where
  | authentication
  | objectNotFound
  | permissionDenied
  | query
  | invalidResponse
  | network
  | configuration
deriving DecidableEq, Repr

/-- What a reader is told first about a failure. -/
def FetchFailure.heading : FetchFailure → String
  | .authentication => "Authentication failed"
  | .objectNotFound => "Object not found"
  | .permissionDenied => "Permission denied"
  | .query => "Query failed"
  | .invalidResponse => "Invalid response"
  | .network => "Network error"
  | .configuration => "Configuration error"

/-- A **failure** of a warehouse, with what there is to say about it. -/
structure FetchError where
  failure : FetchFailure
  detail : String
deriving DecidableEq, Repr

namespace FetchError

/-- What is reported about a failure. -/
def message (e : FetchError) : String := e.failure.heading ++ ": " ++ e.detail

/-- Whether the object asked for is not there. -/
def isNotFound (e : FetchError) : Bool := e.failure = .objectNotFound

/-- An answer in which a missing object counts as something. -/
def whenMissing {α : Type} (default : α) : Except FetchError α → Except FetchError α
  | .ok a => .ok a
  | .error e => if e.isNotFound then .ok default else .error e

end FetchError

end SchemaDrift
