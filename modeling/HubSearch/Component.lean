/-
The four workloads of the search application.
-/

namespace HubSearch

/-- A workload. -/
inductive Component where
  | database
  | indexer
  | collector
  | api
  deriving DecidableEq, Inhabited

namespace Component

/-- All workloads, in the order in which they are deployed. -/
def all : List Component := [.database, .indexer, .collector, .api]

/-- The name of a workload and of its objects. -/
def name : Component → String
  | .database => "search-postgres"
  | .indexer => "search-indexer"
  | .collector => "search-collector"
  | .api => "search-api"

/-- The port that a workload listens on. -/
def port? : Component → Option Int32
  | .database => some 5432
  | .indexer => some 3010
  | .collector => none
  | .api => some 4010

/-- The secret with the certificate of a workload. -/
def tlsSecret (c : Component) : String := c.name ++ "-tls"

end Component

end HubSearch
