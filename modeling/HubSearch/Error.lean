/-
The ways in which the work of the operator can fail, and the wording of each. A failure that has
several causes keeps them all, each with the labels that locate it.
-/
import HubSearch.Json.Document
import HubSearch.Json.Fault
import HubSearch.Text.Quoted

namespace HubSearch

/-- A refusal by the API server. -/
structure ApiRefusal where
  status : String
  message : String
  reason : String
  code : UInt16
  deriving DecidableEq, Inhabited

/-- What is done to a single object. -/
inductive StoreAction where
  | get
  | create
  | update
  | delete
  /-- Any other action, by its word. -/
  | named (word : String)
  deriving DecidableEq, Inhabited

namespace StoreAction

/-- The word for an action. -/
def word : StoreAction → String
  | .get => "get"
  | .create => "create"
  | .update => "update"
  | .delete => "delete"
  | .named word => word

/-- The action that a word stands for. -/
def ofWord (word : String) : StoreAction :=
  ([.get, .create, .update, .delete].find? fun a => a.word = word).getD (.named word)

theorem word_ofWord (word : String) : (ofWord word).word = word := by
  unfold ofWord
  cases h : [get, create, update, delete].find? fun a => a.word = word with
  | none => rfl
  | some a => simpa using List.find?_some h

end StoreAction

/-- A failure. -/
inductive OperatorError where
  /-- A value could not be written as JSON or read back. -/
  | serialization (fault : ReadFault)
  /-- The API server refused a request. -/
  | refused (refusal : ApiRefusal)
  /-- A request to the API server could not be made. -/
  | unsendable (detail : String)
  /-- A body sent to the API server or received from it could not be written or read. -/
  | unreadable (fault : ReadFault)
  /-- Applying an object that carries the finalizer failed. -/
  | finalizerApply (source : OperatorError)
  /-- Cleaning up after an object that carries the finalizer failed. -/
  | finalizerCleanup (source : OperatorError)
  /-- The object that should carry the finalizer has no name. -/
  | finalizerUnnamed
  /-- The finalizer is no valid name. -/
  | finalizerInvalid
  /-- A prerequisite of a feature is not met, and nothing was applied. -/
  | validation (text : String)
  /-- An action on a single object failed. -/
  | apply (action : StoreAction) (kind name : String) (source : OperatorError)
  /-- Several causes, each with its labels. -/
  | aggregate (causes : List (List String × OperatorError))
  /-- The object changed since it was read. -/
  | conflict (what : String)
  /-- A schema-less document has not the fields that are asked for. -/
  | document (cause : FieldError)
  /-- A part of the metadata that must be there is missing. -/
  | missingKey (key : String)
  | other (text : String)
  deriving Inhabited

namespace ApiRefusal

/-- The wording of a refusal. -/
def text (r : ApiRefusal) : String :=
  "ApiError: " ++ r.message ++ ": " ++ r.reason ++ " (ErrorResponse \x7b status: " ++ quoted r.status ++
    ", message: " ++ quoted r.message ++ ", reason: " ++ quoted r.reason ++ ", code: " ++
    toString r.code.toNat ++ " \x7d)"

/-- Whether the object asked for does not exist. -/
def isNotFound (r : ApiRefusal) : Bool := r.code = 404

/-- Whether the object changed, or exists already. -/
def isConflict (r : ApiRefusal) : Bool := r.code = 409

end ApiRefusal

namespace OperatorError

mutual

/-- The wording of a failure. -/
def message : OperatorError → String
  | .serialization fault => "SerializationError: " ++ fault.message
  | .refused r => "Kube Error: " ++ r.text
  | .unsendable detail => "Kube Error: Failed to build request: " ++ detail
  | .unreadable fault => "Kube Error: Error deserializing response: " ++ fault.message
  | .finalizerApply source => "Finalizer Error: failed to apply object: " ++ source.message
  | .finalizerCleanup source => "Finalizer Error: failed to clean up object: " ++ source.message
  | .finalizerUnnamed => "Finalizer Error: object has no name"
  | .finalizerInvalid => "Finalizer Error: invalid finalizer"
  | .validation text => "Validation Error: " ++ text
  | .apply action kind name source =>
    "failed to " ++ action.word ++ " " ++ kind ++ " `" ++ name ++ "`: " ++ source.message
  | .aggregate causes => toString causes.length ++ " error(s) occurred:" ++ causesText causes
  | .conflict what => "Conflict Error: " ++ what
  | .document cause => "Document Error: " ++ cause.message
  | .missingKey key => "Missing object key: " ++ key
  | .other text => "Other Error: " ++ text

/-- The wording of causes, a line each. -/
def causesText : List (List String × OperatorError) → String
  | [] => ""
  | (labels, cause) :: rest =>
    (if labels = [] then "\n\t* " else "\n\t* [" ++ "/".intercalate labels ++ "] ") ++ cause.message ++
      causesText rest

end

/-- The code of the refusal by the API server that lies at the bottom of a failure, if any. -/
def apiCode? : OperatorError → Option UInt16
  | .refused r => some r.code
  | .apply _ _ _ source => source.apiCode?
  | _ => none

end OperatorError

/-! ## Collecting failures -/

/-- Failures collected on the way through several steps, in the order in which they happened, each
with its labels. -/
abbrev Failures := List (List String × OperatorError)

namespace Failures

/-- Add a failure. -/
def push (fs : Failures) (labels : List String) (e : OperatorError) : Failures := fs ++ [(labels, e)]

/-- Add the failure of a result, if it is one, and hand on the value. -/
def collect {α : Type} (fs : Failures) (labels : List String) :
    Except OperatorError α → Failures × Option α
  | .ok a => (fs, some a)
  | .error e => (fs.push labels e, none)

/-- The failures as one, if there are any. -/
def toResult (fs : Failures) : Except OperatorError Unit :=
  if fs.isEmpty then .ok () else .error (.aggregate fs)

end Failures

end HubSearch
