/-
Amending services: selector and ports are owned.
-/
import HubSearch.Amend.Basic
import HubSearch.Object.Service

namespace HubSearch

/-- Whether live and desired spec agree on what is owned. -/
def ServiceSpec.agrees (live : Option ServiceSpec) (want : ServiceSpec) : Bool :=
  nonEmpty (live.bind (·.selector)) = nonEmpty want.selector && sameSet (live.bind (·.ports)) want.ports

/-- The live service with the desired selector and ports. -/
def Service.amend (live desired : Service) : Option Service :=
  match desired.spec with
  | none => none
  | some want =>
    if ServiceSpec.agrees live.spec want then none
    else some { live with
      spec := some { live.spec.getD {} with selector := want.selector, ports := want.ports } }

end HubSearch
