/-
Amending cluster roles and bindings: the rules, the role and the subjects are owned as a whole.
-/
import HubSearch.Amend.Basic
import HubSearch.Object.Rbac

namespace HubSearch

/-- The live role with the desired rules. -/
def ClusterRole.amend (live desired : ClusterRole) : Option ClusterRole :=
  if sameSet live.rules desired.rules then none else some { live with rules := desired.rules }

/-- The live binding with the desired role and subjects. -/
def ClusterRoleBinding.amend (live desired : ClusterRoleBinding) : Option ClusterRoleBinding :=
  if live.roleRef = desired.roleRef ∧ sameSet live.subjects desired.subjects then none
  else some { live with roleRef := desired.roleRef, subjects := desired.subjects }

end HubSearch
