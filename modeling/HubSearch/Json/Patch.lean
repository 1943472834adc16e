/-
Merge patches: the fields of a patch replace those of the target, recursively in objects, and a
`null` removes a field. A patch that is no object replaces the whole target.
-/
import HubSearch.Json.Basic

namespace HubSearch.Json

mutual

/-- The target with a patch merged into it. -/
def merge (target : Json) : Json → Json
  | .object changes => .object (mergeFields (target.object?.getD []) changes)
  | patch => patch

/-- The fields of an object with the changes of a patch made one after the other. -/
def mergeFields (fields : List (String × Json)) : List (String × Json) → List (String × Json)
  | [] => fields
  | (key, change) :: rest =>
    if change = .null then mergeFields (Entries.erase key fields) rest
    else
      mergeFields (Entries.insert key (merge ((fields.lookup key).getD .null) change) fields) rest

end

end HubSearch.Json
