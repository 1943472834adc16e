/-
Amending an object of any kind.
-/
import HubSearch.Amend.ConfigMap
import HubSearch.Amend.Deployment
import HubSearch.Amend.Rbac
import HubSearch.Amend.Service
import HubSearch.Amend.ServiceAccount
import HubSearch.Amend.Unstructured
import HubSearch.Object.Kind

namespace HubSearch

/-- The live object with the owned fields as desired; nothing when they agree. A claim cannot be
changed once it is bound, and a Search belongs to its user, so neither is ever amended. -/
def Kind.amend : (k : Kind) → k.Object → k.Object → Option k.Object
  | .search, _, _ => none
  | .configMap, live, desired => ConfigMap.amend live desired
  | .serviceAccount, live, desired => ServiceAccount.amend live desired
  | .clusterRole, live, desired => ClusterRole.amend live desired
  | .clusterRoleBinding, live, desired => ClusterRoleBinding.amend live desired
  | .service, live, desired => Service.amend live desired
  | .deployment, live, desired => Deployment.amend live desired
  | .persistentVolumeClaim, _, _ => none
  | .unstructured _, live, desired => Unstructured.amend live desired

end HubSearch
