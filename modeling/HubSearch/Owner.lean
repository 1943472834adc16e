/-
Ownership marks. Objects beside the Search carry a reference to it and go with it; objects of the
cluster and of other namespaces cannot refer to it, so they carry only the labels and are removed by
the cleanup.
-/
import HubSearch.Error
import HubSearch.Search.Basic

namespace HubSearch

/-- The label with the name of the Search that owns an object. -/
def ownerNameLabel : String := "search.open-cluster-management.io/owner-name"

/-- The label with the namespace of the Search that owns an object. -/
def ownerNamespaceLabel : String := "search.open-cluster-management.io/owner-namespace"

/-- The label that names the manager of an object. -/
def managedByLabel : String := "app.kubernetes.io/managed-by"

/-- The name under which the operator manages objects and reports events. -/
def managerName : String := "search-operator"

/-- A Search as the owner of other objects. -/
structure Owner where
  name : String
  inNamespace : String
  uid : String
  deriving DecidableEq, Inhabited

namespace Owner

/-- The owner that a Search makes; it must have a namespace, a name and a uid. -/
def of? (s : Search) : Except OperatorError Owner :=
  match s.metadata.inNamespace with
  | none => .error (.missingKey ".metadata.namespace")
  | some ns =>
    match s.metadata.name, s.metadata.uid with
    | some name, some uid => .ok ⟨name, ns, uid⟩
    | _, _ => .error (.missingKey ".metadata.uid")

/-- The reference to the owner as the controller of an object. -/
def reference (o : Owner) : OwnerReference :=
  { apiVersion := Search.api.apiVersion, kind := Search.api.kind, name := o.name, uid := o.uid,
    controller := some true }

/-- The labels of an owned object. -/
def labels (o : Owner) : List (String × String) :=
  [(ownerNameLabel, o.name), (ownerNamespaceLabel, o.inNamespace), (managedByLabel, managerName)]

/-- Metadata with the labels of the owner. -/
def label (o : Owner) (m : ObjectMeta) : ObjectMeta := m.withLabels o.labels

/-- Labelled metadata, which in the namespace of the owner also refers to it, once. -/
def adopt (o : Owner) (m : ObjectMeta) : ObjectMeta :=
  let m := o.label m
  if m.inNamespace = some o.inNamespace then
    let refs := m.ownerReferences.getD []
    { m with ownerReferences := some (if refs.any (·.uid = o.uid) then refs else refs ++ [o.reference]) }
  else m

/-- Whether metadata carries the labels of the owner. -/
def owns (o : Owner) (m : ObjectMeta) : Bool :=
  m.label? ownerNameLabel = some o.name && m.label? ownerNamespaceLabel = some o.inNamespace

end Owner

end HubSearch
