/-
Service accounts and the references to secrets that they carry.
-/
import HubSearch.Object.ApiType

namespace HubSearch

/-- The name of an object of the same namespace. -/
structure LocalObjectReference where
  name : String := ""
  deriving DecidableEq, Inhabited

/-- A reference to an object that may be incomplete. -/
structure ObjectReference where
  name : Option String := none
  apiVersion : Option String := none
  fieldPath : Option String := none
  kind : Option String := none
  inNamespace : Option String := none
  resourceVersion : Option String := none
  uid : Option String := none
  deriving DecidableEq, Inhabited

/-- A service account. -/
structure ServiceAccount where
  metadata : ObjectMeta := {}
  automountServiceAccountToken : Option Bool := none
  imagePullSecrets : Option (List LocalObjectReference) := none
  secrets : Option (List ObjectReference) := none
  deriving DecidableEq, Inhabited

instance : Encode LocalObjectReference := ⟨fun r => .record [("name", always r.name)]⟩

instance : Decode LocalObjectReference := .record "LocalObjectReference" <|
  LocalObjectReference.mk <$> .defaulted "name" ""

instance : Encode ObjectReference where
  encode r := .record [
    ("apiVersion", whenSome r.apiVersion),
    ("fieldPath", whenSome r.fieldPath),
    ("kind", whenSome r.kind),
    ("name", whenSome r.name),
    ("namespace", whenSome r.inNamespace),
    ("resourceVersion", whenSome r.resourceVersion),
    ("uid", whenSome r.uid)]

instance : Decode ObjectReference := .record "ObjectReference" <|
  ObjectReference.mk <$> .optional "name"
    <*> .optional "apiVersion"
    <*> .optional "fieldPath"
    <*> .optional "kind"
    <*> .optional "namespace"
    <*> .optional "resourceVersion"
    <*> .optional "uid"

namespace ServiceAccount

/-- The API of service accounts. -/
def api : ApiType := ⟨"", "v1", "ServiceAccount", "serviceaccounts"⟩

instance : Encode ServiceAccount where
  encode a := .record [
    ("apiVersion", always api.apiVersion),
    ("automountServiceAccountToken", whenSome a.automountServiceAccountToken),
    ("imagePullSecrets", whenSome a.imagePullSecrets),
    ("kind", always api.kind),
    ("metadata", always a.metadata),
    ("secrets", whenSome a.secrets)]

instance : Decode ServiceAccount := .object api <|
  ServiceAccount.mk <$> .defaulted "metadata" {}
    <*> .optional "automountServiceAccountToken"
    <*> .optional "imagePullSecrets"
    <*> .optional "secrets"

end ServiceAccount

end HubSearch
