/-
A small API server to rehearse with: objects by path, one counter for the versions of all of them, and
faults that answer in place of the server. All requests are logged. Events are accepted and not kept.
-/
import HubSearch.Cluster.Exchange
import HubSearch.Json.Patch
import HubSearch.Json.Text
import HubSearch.Object.Kind

namespace HubSearch

/-- Whether a text occurs in another. -/
def occursIn (part : List Char) : List Char → Bool
  | [] => part.isEmpty
  | c :: rest => part.isPrefixOf (c :: rest) || occursIn part rest

/-- A failure that answers certain requests. -/
structure Fault where
  /-- The method of the requests, any when there is none. -/
  method : Option String := none
  /-- A part of the path of the requests. -/
  path : Option String := none
  code : UInt16 := 500
  reason : String := "Injected"
  message : String := "injected"
  /-- The body of the response, when it is no record of a refusal. -/
  raw : Option String := none
  deriving DecidableEq, Inhabited

/-- The server. -/
structure Server where
  /-- The objects by path. -/
  objects : Dict Json := .empty
  /-- The number of objects stored so far, which is the version of the last one. -/
  version : Nat := 0
  faults : List Fault := []
  /-- The requests so far, the latest last. -/
  log : List Request := []
  deriving Inhabited

namespace Server

/-! ## Responses -/

/-- The record of an outcome. -/
def statusBody (status message reason : String) (code : UInt16) : String :=
  Json.text (.object [("apiVersion", .string "v1"), ("code", .int code.toNat), ("kind", .string "Status"),
    ("message", .string message), ("metadata", .object []), ("reason", .string reason),
    ("status", .string status)])

/-- A response that refuses. -/
def refuse (code : UInt16) (reason message : String) : Response :=
  ⟨code, statusBody "Failure" message reason code⟩

/-- The refusal of a request for an object that is not there. -/
def notFound : Response := refuse 404 "NotFound" "not found"

/-- A response that accepts. -/
def accept (j : Json) : Response := ⟨200, j.text⟩

end Server

/-- Whether a fault answers a request. -/
def Fault.hits (f : Fault) (q : Request) : Bool :=
  f.method.all (· = q.method.word) && f.path.all fun p => occursIn p.toList q.path.toList

/-- The response of a fault. -/
def Fault.response (f : Fault) : Response :=
  match f.raw with
  | some text => ⟨f.code, text⟩
  | none => Server.refuse f.code f.reason f.message

/-- Whether a request concerns an event. -/
def Request.isEvent (q : Request) : Bool := "/apis/events.k8s.io/".toList.isPrefixOf q.path.toList

namespace Server

/-! ## Objects -/

/-- The version of an object. -/
def versionOf (j : Json) : Json := (j.field "metadata").field "resourceVersion"

/-- Store an object as the next version. -/
def put (s : Server) (path : String) (j : Json) : Json × Server :=
  let version := s.version + 1
  let stored := j.setField "metadata" ((j.field "metadata").setField "resourceVersion" (.string (toString version)))
  (stored, { s with objects := s.objects.insert path stored, version })

/-- Whether a path ends in the plural of a kind. -/
def isCollection (path : String) : Bool :=
  Kind.all.any fun k => ("/" ++ k.api.plural).toList.isSuffixOf path.toList

/-- The objects below a path. -/
def below (s : Server) (path : String) : List Json :=
  (s.objects.toList.filter fun e => (path ++ "/").toList.isPrefixOf e.1.toList).map (·.2)

/-- Look up an object or a collection. -/
def lookUp (s : Server) (path : String) : Response :=
  match s.objects.get? path with
  | some j => accept j
  | none =>
    if isCollection path then
      accept (.object [("apiVersion", .string "v1"), ("items", .array (s.below path)), ("kind", .string "List"),
        ("metadata", .object [])])
    else notFound

/-- Store a new object in a collection. -/
def create (s : Server) (path : String) (body : Json) : Response × Server :=
  let path := path ++ "/" ++ ((body.field "metadata").field "name").string?.getD ""
  if s.objects.contains path then (refuse 409 "AlreadyExists" "already exists", s)
  else
    let (stored, s) := s.put path body
    (accept stored, s)

/-- Replace an object by what is made of it. A body that carries a version replaces that version only. -/
def change (s : Server) (path : String) (body : Json) (make : Json → Json) : Response × Server :=
  match s.objects.get? path with
  | none => (notFound, s)
  | some live =>
    if versionOf body ≠ .null ∧ versionOf body ≠ versionOf live then
      (refuse 409 "Conflict" "object has been modified", s)
    else
      let (stored, s) := s.put path (make live)
      (accept stored, s)

/-- Remove an object. -/
def delete (s : Server) (path : String) : Response × Server :=
  if s.objects.contains path then
    (⟨200, statusBody "Success" "" "" 200⟩, { s with objects := s.objects.erase path })
  else (notFound, s)

/-- A path without the part that addresses the status. -/
def withoutStatus (path : String) : String :=
  if "/status".toList.isSuffixOf path.toList then String.ofList (path.toList.take (path.toList.length - 7))
  else path

/-- Serve a request that no fault answers. -/
def serve (s : Server) (q : Request) : Response × Server :=
  let body := q.body.getD .null
  let path := withoutStatus q.path
  if q.isEvent then (accept body, s)
  else
    match q.method with
    | .get => (s.lookUp path, s)
    | .post => s.create path body
    | .put => s.change path body fun _ => body
    | .patch => s.change path body fun live => live.merge (.object [("status", body.field "status")])
    | .delete => s.delete path

/-- Log a request and answer it, by the first fault that hits it if there is one. -/
def exchange : Exchange Server := fun s q =>
  let s := { s with log := s.log ++ [q] }
  match s.faults.find? (·.hits q) with
  | some f => (f.response, s)
  | none => s.serve q

end Server

end HubSearch
