/-
Metadata common to all objects of a cluster: names, labels, annotations, the resource version that
guards updates, and the references to owners; and how objects are selected by their labels.
-/
import HubSearch.Timestamp

namespace HubSearch

/-- A reference to the object that another one belongs to. -/
structure OwnerReference where
  apiVersion : String
  kind : String
  name : String
  uid : String
  /-- Whether the owner manages the object. -/
  controller : Option Bool
  /-- Whether the owner waits for the object to go before it goes itself. -/
  blockOwnerDeletion : Option Bool := none
  deriving DecidableEq, Inhabited

/-- A record of who set which fields of an object. -/
structure FieldManager where
  apiVersion : Option String := none
  fieldsType : Option String := none
  fieldsV1 : Option Json := none
  manager : Option String := none
  operation : Option String := none
  subresource : Option String := none
  time : Option Timestamp := none
  deriving DecidableEq, Inhabited

/-- The metadata of an object. -/
structure ObjectMeta where
  name : Option String := none
  generateName : Option String := none
  inNamespace : Option String := none
  uid : Option String := none
  generation : Option Int64 := none
  labels : Option (Dict String) := none
  annotations : Option (Dict String) := none
  finalizers : Option (List String) := none
  resourceVersion : Option String := none
  deletionTimestamp : Option Timestamp := none
  ownerReferences : Option (List OwnerReference) := none
  creationTimestamp : Option Timestamp := none
  deletionGracePeriodSeconds : Option Int64 := none
  managedFields : Option (List FieldManager) := none
  selfLink : Option String := none
  deriving DecidableEq, Inhabited

namespace OwnerReference

instance : Encode OwnerReference where
  encode r := .record [
    ("apiVersion", always r.apiVersion),
    ("blockOwnerDeletion", whenSome r.blockOwnerDeletion),
    ("controller", whenSome r.controller),
    ("kind", always r.kind),
    ("name", always r.name),
    ("uid", always r.uid)]

instance : Decode OwnerReference := .record "OwnerReference" <|
  OwnerReference.mk <$> .defaulted "apiVersion" ""
    <*> .defaulted "kind" ""
    <*> .defaulted "name" ""
    <*> .defaulted "uid" ""
    <*> .optional "controller"
    <*> .optional "blockOwnerDeletion"

end OwnerReference

instance : Encode FieldManager where
  encode f := .record [
    ("apiVersion", whenSome f.apiVersion),
    ("fieldsType", whenSome f.fieldsType),
    ("fieldsV1", whenSome f.fieldsV1),
    ("manager", whenSome f.manager),
    ("operation", whenSome f.operation),
    ("subresource", whenSome f.subresource),
    ("time", whenSome f.time)]

instance : Decode FieldManager := .record "ManagedFieldsEntry" <|
  FieldManager.mk <$> .optional "apiVersion"
    <*> .optional "fieldsType"
    <*> .optional "fieldsV1"
    <*> .optional "manager"
    <*> .optional "operation"
    <*> .optional "subresource"
    <*> .optional "time"

namespace ObjectMeta

/-- The name of an object, or the stem of its generated name, or nothing. -/
def anyName (m : ObjectMeta) : String := (m.name.or m.generateName).getD ""

/-- The value of a label. -/
def label? (m : ObjectMeta) (key : String) : Option String := m.labels.bind (·.get? key)

/-- The metadata with labels set. -/
def withLabels (m : ObjectMeta) (labels : List (String × String)) : ObjectMeta :=
  { m with labels := some ((m.labels.getD .empty).insertAll labels) }

/-- The metadata with another resource version. -/
def withVersion (m : ObjectMeta) (version : String) : ObjectMeta :=
  { m with resourceVersion := some version }

instance : Encode ObjectMeta where
  encode m := .record [
    ("annotations", whenSome m.annotations),
    ("creationTimestamp", whenSome m.creationTimestamp),
    ("deletionGracePeriodSeconds", whenSome m.deletionGracePeriodSeconds),
    ("deletionTimestamp", whenSome m.deletionTimestamp),
    ("finalizers", whenSome m.finalizers),
    ("generateName", whenSome m.generateName),
    ("generation", whenSome m.generation),
    ("labels", whenSome m.labels),
    ("managedFields", whenSome m.managedFields),
    ("name", whenSome m.name),
    ("namespace", whenSome m.inNamespace),
    ("ownerReferences", whenSome m.ownerReferences),
    ("resourceVersion", whenSome m.resourceVersion),
    ("selfLink", whenSome m.selfLink),
    ("uid", whenSome m.uid)]

instance : Decode ObjectMeta := .record "ObjectMeta" <|
  ObjectMeta.mk <$> .optional "name"
    <*> .optional "generateName"
    <*> .optional "namespace"
    <*> .optional "uid"
    <*> .optional "generation"
    <*> .optional "labels"
    <*> .optional "annotations"
    <*> .optional "finalizers"
    <*> .optional "resourceVersion"
    <*> .optional "deletionTimestamp"
    <*> .optional "ownerReferences"
    <*> .optional "creationTimestamp"
    <*> .optional "deletionGracePeriodSeconds"
    <*> .optional "managedFields"
    <*> .optional "selfLink"

end ObjectMeta

/-! ## Selectors -/

/-- A requirement on the value of a label. -/
structure LabelRequirement where
  key : String := ""
  operator : String := ""
  values : Option (List String) := none
  deriving DecidableEq, Inhabited

/-- A selection of objects by their labels. -/
structure LabelSelector where
  matchLabels : Option (Dict String) := none
  matchExpressions : Option (List LabelRequirement) := none
  deriving DecidableEq, Inhabited

instance : Encode LabelRequirement where
  encode r := .record [
    ("key", always r.key),
    ("operator", always r.operator),
    ("values", whenSome r.values)]

instance : Decode LabelRequirement := .record "LabelSelectorRequirement" <|
  LabelRequirement.mk <$> .defaulted "key" ""
    <*> .defaulted "operator" ""
    <*> .optional "values"

instance : Encode LabelSelector where
  encode s := .record [
    ("matchExpressions", whenSome s.matchExpressions),
    ("matchLabels", whenSome s.matchLabels)]

instance : Decode LabelSelector := .record "LabelSelector" <|
  LabelSelector.mk <$> .optional "matchLabels"
    <*> .optional "matchExpressions"

end HubSearch
