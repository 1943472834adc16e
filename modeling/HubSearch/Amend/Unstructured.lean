/-
Amending objects without a schema: every desired field of the data except `status` is owned, and the
order of array elements does not count.
-/
import HubSearch.Json.Canonical
import HubSearch.Object.Unstructured

namespace HubSearch.Unstructured

/-- The desired fields that live data does not have in this form. -/
def changedFields (live : Json) (desired : List (String × Json)) : List (String × Json) :=
  desired.filter fun e =>
    e.1 ≠ "status" && !((live.object?.getD []).lookup e.1).any (·.agrees e.2)

/-- The live object with the desired fields; desired data that is no object asks for nothing. -/
def amend (live desired : Unstructured) : Option Unstructured :=
  match desired.data with
  | .object want =>
    match changedFields live.data want with
    | [] => none
    | changed => some { live with data := .object (Entries.insertAll (live.data.object?.getD []) changed) }
  | _ => none

end HubSearch.Unstructured
