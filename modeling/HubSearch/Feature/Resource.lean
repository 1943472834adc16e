/-
The resources of the features, as objects without a schema. Each is labelled by its owner; those on the
hub and in managed clusters cannot refer to it.
-/
import HubSearch.Feature.Basic
import HubSearch.Object.Kind
import HubSearch.Owner

namespace HubSearch

/-- A place that a feature puts its resources in. -/
inductive Target where
  | hub
  | managedCluster (name : String)
  deriving DecidableEq, Inhabited

/-- The name of a target in error labels. -/
def Target.name : Target → String
  | .hub => "hub"
  | .managedCluster name => name

/-- A resource of a feature: the object and the kind it is served as. -/
structure FeatureResource where
  kind : UnstructuredKind
  object : Unstructured
  deriving DecidableEq, Inhabited

namespace FeatureResource

/-- The name of the resource. -/
def name (r : FeatureResource) : String := r.object.metadata.anyName

/-- The namespace that the resource stands in. -/
def inNamespace (r : FeatureResource) : Option String := r.object.metadata.inNamespace

/-- A resource of an owner. -/
def new (owner : Owner) (kind : UnstructuredKind) (name : String) (inNamespace : Option String) (data : Json) :
    FeatureResource :=
  let object := Unstructured.new kind.api name inNamespace data
  ⟨kind, { object with metadata := owner.adopt object.metadata }⟩

end FeatureResource

namespace Feature

/-! ## Building blocks -/

/-- A list of texts. -/
def texts (xs : List String) : Json := .array (xs.map .string)

/-- A rule that grants verbs on resources of an API group. -/
def rule (group : String) (resources verbs : List String) : Json :=
  .object [("apiGroups", texts [group]), ("resources", texts resources), ("verbs", texts verbs)]

/-- The namespace of the add-on agents in a managed cluster. -/
def agentNamespace : String := "open-cluster-management-agent-addon"

/-- A service account in a managed cluster whose token is renewed and brought to the hub. -/
def managedServiceAccount (owner : Owner) (cluster name : String) : FeatureResource :=
  .new owner .managedServiceAccount name (some cluster)
    (.object [("spec", .object [("rotation",
      .object [("enabled", .bool true), ("validity", .string "8640h0m0s")])])])

/-- A role with rules, bound to a service account, in a managed cluster. -/
def clusterPermission (owner : Owner) (cluster name : String) (rules : List Json) (account : String) :
    FeatureResource :=
  .new owner .clusterPermission name (some cluster)
    (.object [("spec", .object [
      ("clusterRole", .object [("rules", .array rules)]),
      ("clusterRoleBinding", .object [("subject", .object [
        ("kind", .string "ServiceAccount"),
        ("name", .string account),
        ("namespace", .string agentNamespace)])])])])

/-! ## Resources -/

/-- Global search reads everything in a managed cluster. -/
def globalSearchResources (owner : Owner) (cluster : String) : List FeatureResource :=
  [managedServiceAccount owner cluster "search-global",
    clusterPermission owner cluster "search-global"
      [rule "*" ["*"] ["get", "list", "watch"]] "search-global"]

/-- Virtual machine actions start, stop, restart, pause and unpause machines in a managed cluster. -/
def virtualMachineResources (owner : Owner) (cluster : String) : List FeatureResource :=
  [managedServiceAccount owner cluster "vm-actor",
    clusterPermission owner cluster "vm-actions"
      [rule "subresources.kubevirt.io"
        ["virtualmachines/start", "virtualmachines/stop", "virtualmachines/restart",
          "virtualmachineinstances/pause", "virtualmachineinstances/unpause"]
        ["update"]] "vm-actor"]

/-- Fine-grained access control looks up the permissions of a user on the hub. -/
def fineGrainedRbacResources (owner : Owner) : List FeatureResource :=
  [.new owner .clusterRole "search-fine-grained-rbac" none
    (.object [("rules", .array [
      rule "clusterview.open-cluster-management.io" ["kubevirtprojects", "userpermissions"] ["list", "get"],
      rule "rbac.open-cluster-management.io" ["clusterpermissions"] ["get", "list", "watch"]])])]

/-- The resources that a feature needs in a target. -/
def resources (f : Feature) (target : Target) (owner : Owner) : List FeatureResource :=
  match f, target with
  | .globalSearch, .managedCluster cluster => globalSearchResources owner cluster
  | .virtualMachineActions, .managedCluster cluster => virtualMachineResources owner cluster
  | .fineGrainedRbac, _ => fineGrainedRbacResources owner
  | _, .hub => []

end Feature

end HubSearch
