/-
How a kind of object is named and addressed by the API: its group, version, kind and plural.
-/
import HubSearch.Object.Meta

namespace HubSearch

/-- The API of a kind. -/
structure ApiType where
  /-- Empty for the core kinds. -/
  group : String
  version : String
  kind : String
  plural : String
  deriving DecidableEq, Inhabited

namespace ApiType

/-- The group, if any, and the version. -/
def apiVersion (t : ApiType) : String := if t.group = "" then t.version else t.group ++ "/" ++ t.version

/-- Whether a written object names no other API version and kind than these; it may leave them out. -/
def accepts (t : ApiType) (j : WrittenJson) : Bool :=
  let allows (key own : String) : Bool := (j.values key).all fun w => w.string? = some own
  j.isObject && allows "apiVersion" t.apiVersion && allows "kind" t.kind

/-- The two fields that name the API of a written object. -/
def fields (t : ApiType) : List (String × Option Json) :=
  [("apiVersion", some (.string t.apiVersion)), ("kind", some (.string t.kind))]

end ApiType

/-- An object of an API, which may leave out its type. -/
abbrev Decode.object {α : Type} (api : ApiType) (fields : Fields α) : Decode α where
  shape := .record api.kind
    (("apiVersion", .free, .exactly api.apiVersion) :: ("kind", .free, .exactly api.kind) :: fields.shapes)
  decode? w := if api.accepts w then fields.decode? w else none

end HubSearch
