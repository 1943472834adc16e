/-
Objects without a schema: their type, their metadata, and any JSON beside it. On the wire they are
flat: the fields of the data stand beside the type and the metadata.
-/
import HubSearch.Object.ApiType

namespace HubSearch

/-- The type that an object names. -/
structure TypeMeta where
  apiVersion : String
  kind : String
  deriving DecidableEq, Inhabited

/-- An object without a schema. -/
structure Unstructured where
  types : Option TypeMeta := none
  metadata : ObjectMeta := {}
  /-- Everything beside type and metadata. -/
  data : Json := .null
  deriving DecidableEq, Inhabited

namespace Unstructured

/-- A new object of an API. -/
def new (api : ApiType) (name : String) (inNamespace : Option String) (data : Json) : Unstructured where
  types := some ⟨api.apiVersion, api.kind⟩
  metadata := { name := some name, inNamespace }
  data := data

/-- The kind that an object names. -/
def kindName (o : Unstructured) : String := (o.types.map (·.kind)).getD "Object"

/-- The flat form of an object. Data that is neither an object nor `null` has none; a field of the data
wins over a type or metadata field of the same name. -/
def flat? (o : Unstructured) : Option Json :=
  let head : Entries Json :=
    (match o.types with
      | some t => [("apiVersion", .string t.apiVersion), ("kind", .string t.kind)]
      | none => []) ++ [("metadata", encode o.metadata)]
  match o.data with
  | .null => some (.object head)
  | .object fields => some (.object (Entries.insertAll head fields))
  | _ => none

/-- Take the type out of the fields of a flat form, and keep the others. The taking ends at a field that is
no text or comes again, which is lost; then there is no type, and what follows is kept. -/
def takeTypes (apiVersion kind : Option String) :
    List (String × WrittenJson) → Option TypeMeta × List (String × WrittenJson)
  | [] => (do pure ⟨← apiVersion, ← kind⟩, [])
  | (key, value) :: rest =>
    if key = "apiVersion" then
      match apiVersion, value with
      | none, .string v => takeTypes (some v) kind rest
      | _, _ => (none, rest)
    else if key = "kind" then
      match kind, value with
      | none, .string k => takeTypes apiVersion (some k) rest
      | _, _ => (none, rest)
    else
      let (types, kept) := takeTypes apiVersion kind rest
      (types, (key, value) :: kept)

/-- The shape of a flat form. -/
def shape : Shape := .openRecord "struct DynamicObject" [("metadata", .free, shapeOf ObjectMeta)]

/-- Read a flat form: what is neither type nor metadata is data. -/
def ofFlat? (w : WrittenJson) : Option Unstructured := do
  let fields ← w.object?
  let metadata ← match w.values "metadata" with
    | [] => some {}
    | [m] => decode? m
    | _ => none
  let (types, kept) := takeTypes none none (fields.filter fun e => e.1 ≠ "metadata")
  pure { types, metadata, data := (WrittenJson.object kept).json }

end Unstructured

end HubSearch
