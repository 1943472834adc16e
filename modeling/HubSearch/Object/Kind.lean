/-
The kinds of objects that the operator works with, and what each kind brings: the type of its
objects, its API, its metadata and its form on the wire.
-/
import HubSearch.Object.ConfigMap
import HubSearch.Object.Deployment
import HubSearch.Object.PersistentVolumeClaim
import HubSearch.Object.Service
import HubSearch.Object.Unstructured
import HubSearch.Search.Basic

namespace HubSearch

/-- The kinds whose objects are read without a schema. -/
inductive UnstructuredKind where
  | managedCluster
  | multiClusterEngine
  | clusterManagementAddOn
  | managedServiceAccount
  | clusterPermission
  /-- Cluster roles that belong to a feature. -/
  | clusterRole
  deriving DecidableEq, Inhabited

/-- The kinds of objects. -/
inductive Kind where
  | search
  | configMap
  | serviceAccount
  | clusterRole
  | clusterRoleBinding
  | service
  | deployment
  | persistentVolumeClaim
  | unstructured (kind : UnstructuredKind)
  deriving DecidableEq, Inhabited

namespace UnstructuredKind

/-- All kinds without a schema. -/
def all : List UnstructuredKind :=
  [.managedCluster, .multiClusterEngine, .clusterManagementAddOn, .managedServiceAccount, .clusterPermission,
    .clusterRole]

/-- The API of a kind. -/
def api : UnstructuredKind → ApiType
  | .managedCluster => ⟨"cluster.open-cluster-management.io", "v1", "ManagedCluster", "managedclusters"⟩
  | .multiClusterEngine => ⟨"multicluster.openshift.io", "v1", "MultiClusterEngine", "multiclusterengines"⟩
  | .clusterManagementAddOn =>
    ⟨"addon.open-cluster-management.io", "v1alpha1", "ClusterManagementAddOn", "clustermanagementaddons"⟩
  | .managedServiceAccount =>
    ⟨"authentication.open-cluster-management.io", "v1beta1", "ManagedServiceAccount", "managedserviceaccounts"⟩
  | .clusterPermission =>
    ⟨"rbac.open-cluster-management.io", "v1alpha1", "ClusterPermission", "clusterpermissions"⟩
  | .clusterRole => ClusterRole.api

end UnstructuredKind

namespace Kind

/-- All kinds. -/
def all : List Kind :=
  [.search, .configMap, .serviceAccount, .clusterRole, .clusterRoleBinding, .service, .deployment,
    .persistentVolumeClaim] ++ UnstructuredKind.all.map .unstructured

/-- The objects of a kind. -/
abbrev Object : Kind → Type
  | .search => Search
  | .configMap => ConfigMap
  | .serviceAccount => ServiceAccount
  | .clusterRole => ClusterRole
  | .clusterRoleBinding => ClusterRoleBinding
  | .service => Service
  | .deployment => Deployment
  | .persistentVolumeClaim => PersistentVolumeClaim
  | .unstructured _ => Unstructured

/-- The API of a kind. -/
def api : Kind → ApiType
  | .search => Search.api
  | .configMap => ConfigMap.api
  | .serviceAccount => ServiceAccount.api
  | .clusterRole => ClusterRole.api
  | .clusterRoleBinding => ClusterRoleBinding.api
  | .service => Service.api
  | .deployment => Deployment.api
  | .persistentVolumeClaim => PersistentVolumeClaim.api
  | .unstructured u => u.api

/-- Whether the objects of a kind never stand in a namespace. -/
def isClusterScoped : Kind → Bool
  | .clusterRole => true
  | .clusterRoleBinding => true
  | _ => false

/-- The metadata of an object. -/
def metadata : (k : Kind) → k.Object → ObjectMeta
  | .search, o => o.metadata
  | .configMap, o => o.metadata
  | .serviceAccount, o => o.metadata
  | .clusterRole, o => o.metadata
  | .clusterRoleBinding, o => o.metadata
  | .service, o => o.metadata
  | .deployment, o => o.metadata
  | .persistentVolumeClaim, o => o.metadata
  | .unstructured _, o => o.metadata

/-- An object with other metadata. -/
def withMetadata : (k : Kind) → k.Object → ObjectMeta → k.Object
  | .search, o, m => { o with metadata := m }
  | .configMap, o, m => { o with metadata := m }
  | .serviceAccount, o, m => { o with metadata := m }
  | .clusterRole, o, m => { o with metadata := m }
  | .clusterRoleBinding, o, m => { o with metadata := m }
  | .service, o, m => { o with metadata := m }
  | .deployment, o, m => { o with metadata := m }
  | .persistentVolumeClaim, o, m => { o with metadata := m }
  | .unstructured _, o, m => { o with metadata := m }

@[simp]
theorem metadata_withMetadata (k : Kind) (o : k.Object) (m : ObjectMeta) :
    k.metadata (k.withMetadata o m) = m := by
  cases k <;> rfl

/-- The kind that messages call an object by. -/
def objectKindName : (k : Kind) → k.Object → String
  | .unstructured _, o => Unstructured.kindName o
  | k, _ => k.api.kind

/-- The form of an object on the wire. -/
def flat? : (k : Kind) → k.Object → Option Json
  | .search, o => some (encode (α := Search) o)
  | .configMap, o => some (encode (α := ConfigMap) o)
  | .serviceAccount, o => some (encode (α := ServiceAccount) o)
  | .clusterRole, o => some (encode (α := ClusterRole) o)
  | .clusterRoleBinding, o => some (encode (α := ClusterRoleBinding) o)
  | .service, o => some (encode (α := Service) o)
  | .deployment, o => some (encode (α := Deployment) o)
  | .persistentVolumeClaim, o => some (encode (α := PersistentVolumeClaim) o)
  | .unstructured _, o => Unstructured.flat? o

/-- The shape of an object on the wire. -/
def shape : Kind → Shape
  | .search => shapeOf Search
  | .configMap => shapeOf ConfigMap
  | .serviceAccount => shapeOf ServiceAccount
  | .clusterRole => shapeOf ClusterRole
  | .clusterRoleBinding => shapeOf ClusterRoleBinding
  | .service => shapeOf Service
  | .deployment => shapeOf Deployment
  | .persistentVolumeClaim => shapeOf PersistentVolumeClaim
  | .unstructured _ => Unstructured.shape

/-- Read an object from its form on the wire. -/
def ofFlat? : (k : Kind) → WrittenJson → Option k.Object
  | .search, w => decode? (α := Search) w
  | .configMap, w => decode? (α := ConfigMap) w
  | .serviceAccount, w => decode? (α := ServiceAccount) w
  | .clusterRole, w => decode? (α := ClusterRole) w
  | .clusterRoleBinding, w => decode? (α := ClusterRoleBinding) w
  | .service, w => decode? (α := Service) w
  | .deployment, w => decode? (α := Deployment) w
  | .persistentVolumeClaim, w => decode? (α := PersistentVolumeClaim) w
  | .unstructured _, w => Unstructured.ofFlat? w

instance (k : Kind) : DecidableEq k.Object :=
  match k with
  | .search => inferInstanceAs (DecidableEq Search)
  | .configMap => inferInstanceAs (DecidableEq ConfigMap)
  | .serviceAccount => inferInstanceAs (DecidableEq ServiceAccount)
  | .clusterRole => inferInstanceAs (DecidableEq ClusterRole)
  | .clusterRoleBinding => inferInstanceAs (DecidableEq ClusterRoleBinding)
  | .service => inferInstanceAs (DecidableEq Service)
  | .deployment => inferInstanceAs (DecidableEq Deployment)
  | .persistentVolumeClaim => inferInstanceAs (DecidableEq PersistentVolumeClaim)
  | .unstructured _ => inferInstanceAs (DecidableEq Unstructured)

end Kind

end HubSearch
