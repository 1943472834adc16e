/-
Bringing single objects into their desired state: an object is created when it is absent, amended when
it differs in a field that the operator owns, and deleted when it is not wanted. Each takes one write at
most.
-/
import HubSearch.Amend.Kind
import HubSearch.Store.Call

namespace HubSearch

/-- What became of an object. -/
inductive SyncOutcome where
  | created
  | updated
  | unchanged
  deriving DecidableEq, Inhabited

namespace SyncOutcome

/-- The word for an outcome. -/
def word : SyncOutcome → String
  | .created => "Created"
  | .updated => "Updated"
  | .unchanged => "Unchanged"

end SyncOutcome

/-- The name of an object in messages, empty when it has none. -/
def Kind.objectName (k : Kind) (o : k.Object) : String := (k.metadata o).name.getD ""

/-- Bring the live object to the desired one: create it, or amend it if it differs. -/
def sync (r : StoreRef) (desired : r.kind.Object) : Work SyncOutcome := do
  let kind := r.kind.objectKindName desired
  let name := r.kind.objectName desired
  match ← Work.onObject .get kind name (Work.fetch r name) with
  | none =>
    let _ ← Work.onObject .create kind name (Work.insert r desired)
    pure .created
  | some live =>
    match r.kind.amend live desired with
    | none => pure .unchanged
    | some amended =>
      let _ ← Work.onObject .update kind name (Work.update r amended)
      pure .updated

/-- Delete an object, and whether it was there. -/
def ensureDeleted (r : StoreRef) (kind name : String) : Work Bool :=
  Work.onObject .delete kind name (Work.remove r name)

end HubSearch
