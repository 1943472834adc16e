/-
Rehearsals: the requests that a Search leads to in a cluster that holds nothing but the Search. A
rehearsal takes place at the start of 1970, so that it can be repeated.
-/
import HubSearch.Cluster.Server
import HubSearch.Controller

namespace HubSearch.Rehearsal

/-- The server of a cluster that holds a Search alone. -/
def server (search : Search) : Server :=
  match StoreRef.objectPath? ⟨.search, search.metadata.inNamespace⟩ search.metadata.anyName with
  | .ok path => (({} : Server).put path (encode search)).2
  | .error _ => {}

/-- The outcome of a reconcile, and the requests that it makes. -/
def reconcile (config : OperatorConfig) (search : Search) : Except OperatorError NextLook × List Request :=
  let clock := Clock.stopped { seconds := 0 }
  let (result, _, after) := Controller.reconcile Server.exchange search config clock [] (server search)
  (result, after.log)

/-- The written form of a request. -/
def requestJson (q : Request) : Json := .record [
  ("body", q.body),
  ("method", always q.method.word),
  ("path", always q.path)]

/-- The lines that report a rehearsal: a line for each request, and one for the failure if there is one. -/
def report (config : OperatorConfig) (search : Search) : List String :=
  let (result, requests) := reconcile config search
  requests.map (fun q => (requestJson q).text) ++
    match result with
    | .ok _ => []
    | .error e => [e.message]

/-- The lines that answer a line of input, which must hold a Search. -/
def answer (config : OperatorConfig) (line : String) : List String :=
  match readText Search line with
  | .ok search => report config search
  | .error fault => ["the line holds no Search: " ++ fault.message]

end HubSearch.Rehearsal
