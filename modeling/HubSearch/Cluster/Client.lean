/-
Calls to the stores of a cluster, made by requests to its API server: the request that a call sends, and
what its response stands for. An object that is not found is no failure for a call that only asks for it,
which goes by the reason of the refusal, or removes it, which goes by its code.
-/
import HubSearch.Cluster.Address
import HubSearch.Store.Call

namespace HubSearch

/-! ## Addresses -/

/-- The address of the collection that a store is. A kind of the whole cluster has a single one. -/
def StoreRef.path (r : StoreRef) : String :=
  let api := r.kind.api
  let place := match r.inNamespace with
    | some ns => if r.kind.isClusterScoped then "" else "namespaces/" ++ ns ++ "/"
    | none => ""
  (if api.group = "" then "/api/" else "/apis/") ++ api.apiVersion ++ "/" ++ place ++ api.plural

/-- The address of an object of a store, which must have a name. -/
def StoreRef.objectPath? (r : StoreRef) (name : String) : Except OperatorError String :=
  if name = "" then .error (.unsendable "failed to validate request: A non-empty name is required")
  else .ok (r.path ++ "/" ++ name)

namespace StoreCall

/-! ## Requests -/

/-- What a value is called when it cannot stand for the fields of an object. -/
def unflattened : Json → String
  | .null => "a unit"
  | .bool _ => "a boolean"
  | .number (.int _) => "an integer"
  | .number (.decimal ..) => "a float"
  | .string _ => "a string"
  | .array _ => "a sequence"
  | .object _ => "a map"

/-- The data of an object without a schema. -/
def dataOf : (k : Kind) → k.Object → Json
  | .unstructured _, o => Unstructured.data o
  | _, _ => .null

/-- The body that carries an object. -/
def body? (k : Kind) (o : k.Object) : Except OperatorError Json :=
  match k.flat? o with
  | some flat => .ok flat
  | none =>
    let got := unflattened (dataOf k o)
    .error (.unreadable (.ofMessage ("can only flatten structs and maps (got " ++ got ++ ")")))

/-- The request of a call. -/
def request : StoreCall → Except OperatorError Request
  | .fetch r name => do Request.to .get (← r.objectPath? name) none
  | .fetchAll r => Request.to .get r.path none
  | .insert r o => do Request.to .post r.path (some (← body? r.kind o))
  | .update r o =>
    match (r.kind.metadata o).name with
    | none => .error (.missingKey ".metadata.name")
    | some name => do
      let body ← body? r.kind o
      Request.to .put (← r.objectPath? name) (some body)
  | .remove r name => do
    Request.to .delete (← r.objectPath? name) (some (.object [("propagationPolicy", .string "Background")]))
  | .writeStatus r name version status => do
    Request.to .patch ((← r.objectPath? name) ++ "/status") (some (.object [
      ("metadata", .object [("resourceVersion", encode version)]), ("status", status)]))

/-! ## Replies -/

/-- Read what a text of a shape writes. -/
def read {α : Type} (shape : Shape) (view : WrittenJson → Option α) (text : String) :
    Except OperatorError α :=
  (shape.readAs view text).mapError .unreadable

/-- Read an object of a kind. -/
def readObject (k : Kind) (text : String) : Except OperatorError k.Object := read k.shape k.ofFlat? text

/-- The shape of a list of objects: the items must be there, but may be `null`. -/
def listShape (k : Kind) : Shape := .openRecord "struct ObjectList" [
  ("metadata", .free, .record "ListMeta" [
    ("continue", .free, .optional .string),
    ("remainingItemCount", .free, .optional .int64),
    ("resourceVersion", .free, .optional .string),
    ("selfLink", .free, .optional .string)]),
  ("items", .needed, .optional (.list k.shape))]

/-- The items of a list of objects. -/
def items? (k : Kind) (w : WrittenJson) : Option (List k.Object) := do
  match ← (w.values "items").getLast? with
  | .null => some []
  | items => (← items.array?).mapM k.ofFlat?

/-- The shape of the outcome of a request. -/
def outcomeShape : Shape := .strictRecord "struct Status" [
  ("status", .free, .optional (.word ["Success", "Failure"])),
  ("code", .free, .uint16),
  ("message", .free, .string),
  ("reason", .free, .string),
  ("details", .free, .optional (.strictRecord "struct StatusDetails" [
    ("name", .free, .string),
    ("group", .free, .string),
    ("kind", .free, .string),
    ("uid", .free, .string),
    ("causes", .free, .list (.strictRecord "struct StatusCause" [
      ("reason", .free, .string),
      ("message", .free, .string),
      ("field", .free, .string)])),
    ("retryAfterSeconds", .free, .uint32)]))]

/-- Read the response to a removal, which tells its outcome or the object that is removed. -/
def readRemoval (k : Kind) (text : String) : Except OperatorError Bool := do
  let j ← (Json.read text).mapError .unreadable
  if j.field "kind" = .string "Status" then read outcomeShape (fun _ => some true) text
  else (readObject k text).map fun _ => true

/-- What a response that accepts stands for. -/
def accepted : (c : StoreCall) → String → Except OperatorError c.Reply
  | .fetch r _, text => (readObject r.kind text).map some
  | .fetchAll r, text => read (listShape r.kind) (items? r.kind) text
  | .insert r _, text => readObject r.kind text
  | .update r _, text => readObject r.kind text
  | .remove r _, text => readRemoval r.kind text
  | .writeStatus r _ _ _, text => readObject r.kind text

/-- What a refusal stands for. -/
def refused : (c : StoreCall) → ApiRefusal → Except OperatorError c.Reply
  | .fetch _ _, e => if e.reason = "NotFound" then .ok none else .error (.refused e)
  | .remove _ _, e => if e.isNotFound then .ok false else .error (.refused e)
  | .writeStatus _ name _ _, e =>
    .error (if e.isConflict then .conflict ("status of `" ++ name ++ "`") else .refused e)
  | _, e => .error (.refused e)

/-- What a response stands for. -/
def reply (c : StoreCall) (r : Response) : Except OperatorError c.Reply :=
  if r.isRefusal then c.refused r.refusal else c.accepted r.body

/-- Answer calls by an exchange; a call that cannot be sent fails without one. -/
def answer {σ : Type} (exchange : Exchange σ) : Plan.Answering σ := fun s c =>
  match c.request with
  | .error e => (.error e, s)
  | .ok q =>
    let (response, s) := exchange s q
    (c.reply response, s)

end StoreCall

end HubSearch
