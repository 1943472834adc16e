/-
Notices published as events of the cluster. The first notice of its kind, reason and action is posted as a
new event; later ones count that event up and keep the note of the first. Failures are ignored: an event
whose post failed is posted again by the next notice, and a count that failed is tried again.
-/
import HubSearch.Cluster.Address
import HubSearch.Pass

namespace HubSearch

/-- An event that has been posted. -/
structure PostedEvent where
  name : String
  /-- The first notice. -/
  notice : Notice
  /-- How many notices, from the second on. -/
  count : Option Nat
  deriving DecidableEq, Inhabited

namespace PostedEvent

/-- Whether a notice counts towards this event. -/
def covers (e : PostedEvent) (n : Notice) : Bool :=
  e.notice.isWarning = n.isWarning && e.notice.reason = n.reason && e.notice.action = n.action

/-- The event with one more notice. -/
def counted (e : PostedEvent) : PostedEvent := { e with count := some (e.count.getD 1 + 1) }

/-- The API of events. -/
def api : ApiType := ⟨"events.k8s.io", "v1", "Event", "events"⟩

/-- The namespace of events about a Search. -/
def namespaceOf (s : Search) : String := s.metadata.inNamespace.getD "default"

/-- The reference to a Search as the object of an event. -/
def reference (s : Search) : ObjectReference where
  name := s.metadata.name
  apiVersion := some Search.api.apiVersion
  kind := some Search.api.kind
  inNamespace := s.metadata.inNamespace
  resourceVersion := s.metadata.resourceVersion
  uid := s.metadata.uid

/-- The written form of an event about a Search. -/
def json (e : PostedEvent) (s : Search) (now : Timestamp) : Json := .record [
  ("action", always e.notice.action),
  ("apiVersion", always api.apiVersion),
  ("eventTime", always now),
  ("kind", always api.kind),
  ("metadata", some (.record [("name", always e.name), ("namespace", always (namespaceOf s))])),
  ("note", always e.notice.note),
  ("reason", always e.notice.reason),
  ("regarding", always (reference s)),
  ("reportingController", always managerName),
  ("reportingInstance", always managerName),
  ("series", e.count.map fun n => .record [("count", some (.int n)), ("lastObservedTime", always now)]),
  ("type", always (if e.notice.isWarning then "Warning" else "Normal"))]

/-- The address of the events about a Search. -/
def path (s : Search) : String :=
  "/apis/" ++ api.apiVersion ++ "/namespaces/" ++ namespaceOf s ++ "/" ++ api.plural

/-- The request that makes the event known: a new one is posted, and a count is patched. -/
def request (e : PostedEvent) (s : Search) (now : Timestamp) : Except OperatorError Request :=
  match e.count with
  | none => Request.to .post (path s) (some (e.json s now))
  | some _ => Request.to .patch (path s ++ "/" ++ e.name) (some (e.json s now))

/-- The shape of an event, which may leave out all of it. -/
def shape : Shape := .record api.kind [
  ("apiVersion", .free, .exactly api.apiVersion),
  ("kind", .free, .exactly api.kind),
  ("action", .free, .optional .string),
  ("deprecatedCount", .free, .optional .int32),
  ("deprecatedFirstTimestamp", .free, .optional (shapeOf Timestamp)),
  ("deprecatedLastTimestamp", .free, .optional (shapeOf Timestamp)),
  ("deprecatedSource", .free, .optional (.record "EventSource" [
    ("component", .free, .optional .string),
    ("host", .free, .optional .string)])),
  ("eventTime", .free, .optional (shapeOf Timestamp)),
  ("metadata", .free, .optional (shapeOf ObjectMeta)),
  ("note", .free, .optional .string),
  ("reason", .free, .optional .string),
  ("regarding", .free, .optional (shapeOf ObjectReference)),
  ("related", .free, .optional (shapeOf ObjectReference)),
  ("reportingController", .free, .optional .string),
  ("reportingInstance", .free, .optional .string),
  ("series", .free, .optional (.record "EventSeries" [
    ("count", .free, .optional .int32),
    ("lastObservedTime", .needed, shapeOf Timestamp)])),
  ("type", .free, .optional .string)]

end PostedEvent

/-- The events that have been posted about a Search. -/
abbrev Recorder := List PostedEvent

namespace Recorder

variable {σ : Type}

/-- A new event of a notice, named after the Search and the instant. -/
def fresh (s : Search) (now : Timestamp) (n : Notice) : PostedEvent where
  name := s.metadata.name.getD managerName ++ "." ++
    String.ofList (Nat.toDigits 16 (now.seconds.toNat * nanosPerSecond))
  notice := n
  count := none

/-- The event that a notice leads to: the one that it counts towards, counted up, or a new one. -/
def next (r : Recorder) (s : Search) (now : Timestamp) (n : Notice) : PostedEvent :=
  match r.find? fun e => e.covers n with
  | some e => e.counted
  | none => fresh s now n

/-- Remember an event in the place of the one with the same notice. -/
def remember (r : Recorder) (e : PostedEvent) : Recorder := e :: r.filter fun o => !o.covers e.notice

/-- Whether a response says that an event was taken: it accepts, with an event. -/
def isTaken (r : Response) : Bool := !r.isRefusal && (PostedEvent.shape.read r.body).isOk

/-- Publish a notice; an event that cannot be sent or is not taken is not remembered. -/
def publish (exchange : Exchange σ) (s : Search) (now : Timestamp) (state : Recorder × σ) (n : Notice) :
    Recorder × σ :=
  let (r, server) := state
  let e := r.next s now n
  match e.request s now with
  | .error _ => (r, server)
  | .ok q =>
    let (response, server) := exchange server q
    (if isTaken response then r.remember e else r, server)

/-- Publish notices, one after the other, each with its own reading of the clock. -/
def publishAll (exchange : Exchange σ) (s : Search) (now : Nat → Timestamp) (ns : List Notice)
    (state : Recorder × σ) : Recorder × σ :=
  ns.zipIdx.foldl (fun state n => publish exchange s (now n.2) state n.1) state

end Recorder

end HubSearch
