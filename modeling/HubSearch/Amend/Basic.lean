/-
Amending a live object: the object with the fields that the operator owns as they are desired, and
everything else as it is. There is nothing to amend when the owned fields agree already, where the
order of a collection does not count and an absent one is like an empty one.
-/
import HubSearch.Json.Canonical
import HubSearch.Json.Codec

namespace HubSearch

variable {α : Type}

/-- A collection sorted by the text of its items; an absent one is empty. -/
def normalized [Encode α] (items : Option (List α)) : List α :=
  sortedByText (fun a => (encode a).text) (items.getD [])

/-- Whether two collections hold the same items, each as often. -/
def sameSet [Encode α] [DecidableEq α] (a b : Option (List α)) : Bool := normalized a = normalized b

/-- A map, absent when it is empty. -/
def nonEmpty (d : Option (Dict α)) : Option (Dict α) := d.filter fun d => !d.isEmpty

end HubSearch
