/-
Claims on persistent storage. The spec has all fields of the cluster's, for a volume can have a claim of its own,
and volumes are compared as a whole. The status of a claim is left out, since nothing reads it.
-/
import HubSearch.Object.ApiType

namespace HubSearch

/-- The amounts of storage asked for, and those that may not be exceeded. -/
structure VolumeResources where
  requests : Option (Dict String) := none
  limits : Option (Dict String) := none
  deriving DecidableEq, Inhabited

/-- An object of the namespace whose data the storage begins with. -/
structure DataSource where
  apiGroup : Option String := none
  kind : String := ""
  name : String := ""
  deriving DecidableEq, Inhabited

/-- An object of any namespace whose data the storage begins with. -/
structure DataSourceRef where
  apiGroup : Option String := none
  kind : String := ""
  name : String := ""
  inNamespace : Option String := none
  deriving DecidableEq, Inhabited

/-- What a claim asks for. -/
structure PersistentVolumeClaimSpec where
  accessModes : Option (List String) := none
  resources : Option VolumeResources := none
  storageClassName : Option String := none
  dataSource : Option DataSource := none
  dataSourceRef : Option DataSourceRef := none
  selector : Option LabelSelector := none
  volumeAttributesClassName : Option String := none
  volumeMode : Option String := none
  volumeName : Option String := none
  deriving DecidableEq, Inhabited

/-- A claim on persistent storage. -/
structure PersistentVolumeClaim where
  metadata : ObjectMeta := {}
  spec : Option PersistentVolumeClaimSpec := none
  deriving DecidableEq, Inhabited

instance : Encode VolumeResources where
  encode r := .record [
    ("limits", whenSome r.limits),
    ("requests", whenSome r.requests)]

instance : Decode VolumeResources := .record "VolumeResourceRequirements" <|
  VolumeResources.mk <$> .optional "requests"
    <*> .optional "limits"

instance : Encode DataSource where
  encode s := .record [
    ("apiGroup", whenSome s.apiGroup),
    ("kind", always s.kind),
    ("name", always s.name)]

instance : Decode DataSource := .record "TypedLocalObjectReference" <|
  DataSource.mk <$> .optional "apiGroup"
    <*> .defaulted "kind" ""
    <*> .defaulted "name" ""

instance : Encode DataSourceRef where
  encode s := .record [
    ("apiGroup", whenSome s.apiGroup),
    ("kind", always s.kind),
    ("name", always s.name),
    ("namespace", whenSome s.inNamespace)]

instance : Decode DataSourceRef := .record "TypedObjectReference" <|
  DataSourceRef.mk <$> .optional "apiGroup"
    <*> .defaulted "kind" ""
    <*> .defaulted "name" ""
    <*> .optional "namespace"

instance : Encode PersistentVolumeClaimSpec where
  encode s := .record [
    ("accessModes", whenSome s.accessModes),
    ("dataSource", whenSome s.dataSource),
    ("dataSourceRef", whenSome s.dataSourceRef),
    ("resources", whenSome s.resources),
    ("selector", whenSome s.selector),
    ("storageClassName", whenSome s.storageClassName),
    ("volumeAttributesClassName", whenSome s.volumeAttributesClassName),
    ("volumeMode", whenSome s.volumeMode),
    ("volumeName", whenSome s.volumeName)]

instance : Decode PersistentVolumeClaimSpec := .record "PersistentVolumeClaimSpec" <|
  PersistentVolumeClaimSpec.mk <$> .optional "accessModes"
    <*> .optional "resources"
    <*> .optional "storageClassName"
    <*> .optional "dataSource"
    <*> .optional "dataSourceRef"
    <*> .optional "selector"
    <*> .optional "volumeAttributesClassName"
    <*> .optional "volumeMode"
    <*> .optional "volumeName"

namespace PersistentVolumeClaim

/-- The API of claims. -/
def api : ApiType := ⟨"", "v1", "PersistentVolumeClaim", "persistentvolumeclaims"⟩

instance : Encode PersistentVolumeClaim where
  encode c := .record [
    ("apiVersion", always api.apiVersion),
    ("kind", always api.kind),
    ("metadata", always c.metadata),
    ("spec", whenSome c.spec)]

instance : Decode PersistentVolumeClaim := .object api <|
  PersistentVolumeClaim.mk <$> .defaulted "metadata" {}
    <*> .optional "spec"

end PersistentVolumeClaim

end HubSearch
