/-
ConfigMaps: named texts, and bytes as Base64 text.
-/
import HubSearch.Object.ApiType
import HubSearch.Text.Base64

namespace HubSearch

/-- Bytes, as Base64 text. -/
structure Bytes where
  base64 : String
  deriving DecidableEq, Inhabited

instance : Encode Bytes := ⟨fun b => .string b.base64⟩

/-- `null` reads as no bytes. -/
instance : Decode Bytes where
  shape := .optional (.stringOf "a base64-encoded string" Base64.wrong?)
  decode?
    | .null => some ⟨""⟩
    | w => w.string?.bind fun s => if (Base64.wrong? s).isNone then some ⟨s⟩ else none

/-- A ConfigMap. -/
structure ConfigMap where
  metadata : ObjectMeta := {}
  data : Option (Dict String) := none
  binaryData : Option (Dict Bytes) := none
  immutable : Option Bool := none
  deriving DecidableEq, Inhabited

namespace ConfigMap

/-- The API of ConfigMaps. -/
def api : ApiType := ⟨"", "v1", "ConfigMap", "configmaps"⟩

instance : Encode ConfigMap where
  encode c := .record [
    ("apiVersion", always api.apiVersion),
    ("binaryData", whenSome c.binaryData),
    ("data", whenSome c.data),
    ("immutable", whenSome c.immutable),
    ("kind", always api.kind),
    ("metadata", always c.metadata)]

instance : Decode ConfigMap := .object api <|
  ConfigMap.mk <$> .defaulted "metadata" {}
    <*> .optional "data"
    <*> .optional "binaryData"
    <*> .optional "immutable"

end ConfigMap

end HubSearch
