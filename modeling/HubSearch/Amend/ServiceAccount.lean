/-
Amending service accounts. The platform adds pull secrets of its own, so only the desired ones that
are missing count.
-/
import HubSearch.Object.ServiceAccount

namespace HubSearch

/-- The live account with the desired token setting and the desired pull secrets that it lacks. -/
def ServiceAccount.amend (live desired : ServiceAccount) : Option ServiceAccount :=
  let automount := desired.automountServiceAccountToken.filter fun want =>
    live.automountServiceAccountToken ≠ some want
  let current := live.imagePullSecrets.getD []
  let missing := (desired.imagePullSecrets.getD []).filter fun s => s ∉ current
  if automount = none ∧ missing = [] then none
  else some { live with
    automountServiceAccountToken := automount.or live.automountServiceAccountToken
    imagePullSecrets := if missing = [] then live.imagePullSecrets else some (current ++ missing) }

end HubSearch
