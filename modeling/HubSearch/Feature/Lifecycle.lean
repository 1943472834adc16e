/-
Switching features on and off. A feature that is on has its resources in every target, and one that is
switched off has none of them; the condition tells which, and is written only after every target got
there. What a feature depends on is checked before anything is applied, and is not looked at when its
resources are removed.
-/
import HubSearch.Feature.Resource
import HubSearch.Json.Document
import HubSearch.Sync

namespace HubSearch

/-- The store that a resource of a feature belongs in. -/
def FeatureResource.store (r : FeatureResource) : StoreRef := ⟨.unstructured r.kind, r.inNamespace⟩

namespace Feature

/-- The store of a kind without a schema, in the whole cluster. -/
def hubStore (k : UnstructuredKind) : StoreRef := ⟨.unstructured k, none⟩

/-! ## What a feature depends on -/

/-- Every add-on that the feature requires is installed. -/
def requireAddons (f : Feature) : Work Unit :=
  f.requiredAddons.forM fun addon => do
    if (← Work.fetch (hubStore .clusterManagementAddOn) addon).isNone then
      throw (.validation (f.name ++ " requires the `" ++ addon ++ "` add-on"))

/-- The component that an entry of a MultiClusterEngine switches on, if it does. -/
def enabledComponent? (entry : Json) : Except FieldError (Option String) := do
  let name ← entry.stringAt ["name"]
  let isOn ← FieldError.optional (entry.boolAt ["enabled"])
  pure (if isOn.getD false then some name else none)

/-- The components that a MultiClusterEngine switches on. -/
def enabledComponents (engine : Json) : Except FieldError (List String) := do
  let entries ← FieldError.optional (engine.arrayAt ["spec", "overrides", "components"])
  let names ← (entries.getD []).mapM enabledComponent?
  pure (names.filterMap id)

/-- Every component that the feature requires is switched on in an engine. -/
def requireComponents (f : Feature) (engine : Json) : Except OperatorError Unit := do
  let enabled ← (enabledComponents engine).mapError .document
  match f.requiredComponents.find? fun c => !enabled.contains c with
  | none => pure ()
  | some c =>
    throw (.validation (f.name ++ " requires the MultiClusterEngine component `" ++ c ++ "` to be enabled"))

/-- Everything that the feature depends on is there. Of several engines the first one counts. -/
def validate (f : Feature) : Work Unit := do
  f.requireAddons
  let engines : List Unstructured ← Work.fetchAll (hubStore .multiClusterEngine)
  match engines with
  | [] => throw (.validation (f.name ++ " requires a MultiClusterEngine"))
  | engine :: _ => Work.ofExcept (f.requireComponents engine.data)

/-! ## Targets -/

/-- The names of the managed clusters that are not being deleted, in ascending order. -/
def clusterNames (clusters : List Unstructured) : List String :=
  ((clusters.filter fun c => c.metadata.deletionTimestamp.isNone).map fun c => c.metadata.anyName).mergeSort
    fun a b => decide (a ≤ b)

/-- The targets of the feature. -/
def targets (f : Feature) : Work (List Target) :=
  match f.scope with
  | .hub => pure [.hub]
  | .managedClusters => do
    let clusters : List Unstructured ← Work.fetchAll (hubStore .managedCluster)
    pure ((clusterNames clusters).map .managedCluster)

/-- The labels of a failure in a target. -/
def labels (f : Feature) (target : Target) : List String := [f.name, target.name]

/-! ## Applying and removing resources -/

/-- Bring the resources of one target to where they are wanted, up to the first that fails. -/
def applyTarget (f : Feature) (owner : Owner) (target : Target) : Work Unit :=
  (f.resources target owner).forM fun r => do
    let _ ← sync r.store r.object
    pure ()

/-- Remove the resources of one target, up to the first that fails. -/
def deleteTarget (f : Feature) (owner : Owner) (target : Target) : Work Unit :=
  (f.resources target owner).forM fun r => do
    let _ ← ensureDeleted r.store r.kind.api.kind r.name
    pure ()

/-- Check what the feature depends on, then apply its resources to every target. A target that fails
does not stop the others. Gives the number of targets. -/
def enable (f : Feature) (owner : Owner) : Work Nat := do
  f.validate
  let targets ← f.targets
  let failures ← Work.attemptEach f.labels (f.applyTarget owner) targets
  Work.ofExcept failures.toResult
  pure targets.length

/-- Remove the resources of the feature from every target. A target that fails does not stop the
others. -/
def disable (f : Feature) (owner : Owner) : Work Unit := do
  let targets ← f.targets
  let failures ← Work.attemptEach f.labels (f.deleteTarget owner) targets
  Work.ofExcept failures.toResult

/-- Remove the resources of the feature from every target, and what failed. -/
def sweep (f : Feature) (owner : Owner) : Plan Failures := do
  match ← f.targets.run with
  | .error e => pure [([f.name], e)]
  | .ok targets => Work.attemptEach f.labels (f.deleteTarget owner) targets

/-- Remove the resources of all features, whatever their conditions say. -/
def sweepAll (owner : Owner) : Work Unit := do
  let failures ← Plan.forEach (sweep · owner) all
  Work.ofExcept (Failures.toResult failures.flatten)

/-! ## Conditions -/

/-- What changed about a feature. -/
inductive Transition where
  | enabled
  | disabled
  /-- It had never become active, and its condition was dropped. -/
  | cleared
  deriving DecidableEq, Inhabited

/-- The message of a feature that is on in some number of targets. -/
def enabledMessage (f : Feature) (targets : Nat) : String :=
  match f.scope with
  | .hub => f.name ++ " is enabled"
  | .managedClusters => f.name ++ " is enabled on " ++ toString targets ++ " managed cluster(s)"

/-- The condition of a feature that is on. -/
def enabledCondition (f : Feature) (now : Timestamp) (generation : Int64) (targets : Nat) : Condition :=
  .new now f.conditionType .true reasonEnabled (f.enabledMessage targets) generation

/-- The condition of a feature that has been switched off. -/
def disabledCondition (f : Feature) (now : Timestamp) (generation : Int64) : Condition :=
  .new now f.conditionType .false reasonDisabled (f.name ++ " is disabled") generation

/-- The state of the feature in a status. -/
def state (f : Feature) (status : SearchStatus) : FeatureState := .ofCondition (status.condition? f.conditionType)

/-- Bring a feature to where its toggle wants it. Gives the status with the outcome in the condition,
and what changed; the status stays when something fails. -/
def reconcile (f : Feature) (owner : Owner) (now : Timestamp) (generation : Int64) (isOn : Bool)
    (status : SearchStatus) : Work (SearchStatus × Option Transition) :=
  if isOn then do
    let targets ← f.enable owner
    let (after, changed) := status.upsert (f.enabledCondition now generation targets)
    pure (after, if changed ∧ f.state status ≠ .enabled then some .enabled else none)
  else
    match f.state status with
    | .unset => pure (status, none)
    | .disabled => pure (status, none)
    | .enabled => do
      f.disable owner
      pure ((status.upsert (f.disabledCondition now generation)).1, some .disabled)
    -- it was never active, so there is nothing to remove
    | .inactive => pure ((status.remove f.conditionType).1, some .cleared)

end Feature

end HubSearch
