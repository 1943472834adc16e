/-
Amending ConfigMaps: the desired keys are owned, all others are not.
-/
import HubSearch.Object.ConfigMap

namespace HubSearch

/-- The desired pairs that live data does not have. -/
def changedPairs (live desired : Option (Dict String)) : List (String × String) :=
  (desired.getD .empty).toList.filter fun e => (live.bind (·.get? e.1)) ≠ some e.2

/-- The live ConfigMap with the desired values of the desired keys, unless it has them all. -/
def ConfigMap.amend (live desired : ConfigMap) : Option ConfigMap :=
  match changedPairs live.data desired.data with
  | [] => none
  | changed => some { live with data := some ((live.data.getD .empty).insertAll changed) }

end HubSearch
