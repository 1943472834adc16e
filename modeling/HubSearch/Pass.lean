/-
One pass over a Search: everything it asks for is applied, then the features, then the status is written,
at most once. What fails is collected and reported at the end, so that one broken object does not hold
back the others. The cleanup after a Search removes what does not go with it.
-/
import HubSearch.Desired
import HubSearch.Feature.Lifecycle

namespace HubSearch

/-- Something that a pass did, to be published as an event. -/
structure Notice where
  isWarning : Bool := false
  reason : String
  action : String
  note : String
  deriving DecidableEq, Inhabited

/-- What a part of a pass has to report. -/
structure Report where
  notices : List Notice := []
  failures : Failures := []

namespace Report

/-- One report after another. -/
def append (a b : Report) : Report := ⟨a.notices ++ b.notices, a.failures ++ b.failures⟩

instance : Append Report := ⟨append⟩

/-- Reports in a row. -/
def concat (rs : List Report) : Report := rs.foldr append {}

/-- The report of one failure. -/
def failure (labels : List String) (e : OperatorError) : Report := { failures := [(labels, e)] }

/-- The report of something that succeeds in silence. -/
def ofResult {α : Type} (labels : List String) : Except OperatorError α → Report
  | .ok _ => {}
  | .error e => failure labels e

end Report

/-- An object that is wanted, and the store it belongs in. -/
structure Wanted where
  store : StoreRef
  object : store.kind.Object

/-- A Search that is being worked on. -/
structure Pass where
  search : Search
  owner : Owner
  config : OperatorConfig
  /-- The clock, as each feature reads it when it makes its condition. -/
  now : Feature → Timestamp

namespace Pass

/-- A pass over a Search, which must be able to own objects. -/
def new? (search : Search) (config : OperatorConfig) (now : Feature → Timestamp) : Except OperatorError Pass := do
  pure ⟨search, ← Owner.of? search, config, now⟩

/-- The generation of the Search. -/
def generation (p : Pass) : Int64 := p.search.metadata.generation.getD 0

/-- A store beside the Search. -/
def besideSearch (p : Pass) (k : Kind) : StoreRef := ⟨k, some p.owner.inNamespace⟩

/-- The features that the Search switches on. -/
def toggles (p : Pass) : FeatureToggles := .ofSearch p.search

/-! ## Objects -/

/-- What the Search asks for, with the user's settings of the database configuration that is live. -/
def desired (p : Pass) (live : Option ConfigMap) : DesiredState :=
  let d := DesiredState.build p.search p.owner p.config p.toggles
  match live with
  | none => d
  | some c => { d with databaseConfig := DatabaseConfig.merge c d.databaseConfig DatabaseConfig.priorTemplates }

/-- The objects that are wanted, in the order in which they are applied. -/
def wanted (p : Pass) (d : DesiredState) : List Wanted :=
  [⟨p.besideSearch .serviceAccount, d.serviceAccount⟩,
    ⟨⟨.clusterRole, none⟩, d.clusterRole⟩,
    ⟨⟨.clusterRoleBinding, none⟩, d.clusterRoleBinding⟩,
    ⟨p.besideSearch .configMap, d.databaseConfig⟩] ++
  d.storageClaim.toList.map (fun c => ⟨p.besideSearch .persistentVolumeClaim, c⟩) ++
  d.services.map (fun s => ⟨p.besideSearch .service, s⟩) ++
  d.deployments.map (fun x => ⟨p.besideSearch .deployment, x⟩)

/-- The notice of an object that was written. -/
def syncNotice (outcome : SyncOutcome) (kind name : String) : Notice where
  reason := outcome.word
  action := outcome.word
  note := outcome.word ++ " " ++ kind ++ " `" ++ name ++ "`"

/-- What an attempt to apply an object has to report. -/
def syncReport (kind name : String) : Except OperatorError SyncOutcome → Report
  | .ok .unchanged => {}
  | .ok outcome => { notices := [syncNotice outcome kind name] }
  | .error e => .failure [kind, name] e

/-- Apply one object. -/
def syncOne (w : Wanted) : Plan Report := do
  let outcome ← (sync w.store w.object).run
  pure (syncReport (w.store.kind.objectKindName w.object) (w.store.kind.objectName w.object) outcome)

/-! ## Features -/

/-- The notice of a feature that changed. -/
def transitionNotice (f : Feature) : Feature.Transition → Notice
  | .enabled => { reason := "FeatureEnabled", action := "Reconciling", note := f.name ++ " is enabled" }
  | .disabled => { reason := "FeatureDisabled", action := "Reconciling", note := f.name ++ " is disabled" }
  | .cleared =>
    { reason := "FeatureCleared", action := "Reconciling",
      note := f.name ++ " was never active, condition cleared" }

/-- The notice of a feature that failed. -/
def failureNotice (f : Feature) (e : OperatorError) : Notice where
  isWarning := true
  reason := "FeatureFailed"
  action := "Reconciling"
  note := f.name ++ ": " ++ e.message

/-- Bring one feature to where its toggle wants it; when that fails the status stays. -/
def reconcileFeature (p : Pass) (f : Feature) (status : SearchStatus) : Plan (SearchStatus × Report) := do
  match ← (f.reconcile p.owner (p.now f) p.generation (p.toggles.isEnabled f) status).run with
  | .ok (after, change) => pure (after, { notices := change.toList.map (transitionNotice f) })
  | .error e => pure (status, { notices := [failureNotice f e], failures := [([f.name], e)] })

/-- Bring features to where their toggles want them, one after the other. -/
def reconcileFeatures (p : Pass) (status : SearchStatus) : List Feature → Plan (SearchStatus × Report)
  | [] => pure (status, {})
  | f :: rest => do
    let (status, report) ← p.reconcileFeature f status
    let (status, later) ← p.reconcileFeatures status rest
    pure (status, report ++ later)

/-! ## Status -/

/-- The status after a pass. -/
def finalStatus (d : DesiredState) (status : SearchStatus) : SearchStatus :=
  { status with db := some Component.database.name, storage := some d.storageName }

/-- A status as it is written. The list of conditions is there even when it is empty, so that removed
conditions disappear. -/
def statusJson (status : SearchStatus) : Json :=
  .object [("conditions", encode status.conditionList), ("db", encode status.db),
    ("storage", encode status.storage)]

/-- Write the status if it has changed. It replaces only the version that the pass started from; when the
Search has changed since, the next pass writes it. -/
def persist (p : Pass) (status : SearchStatus) : Plan (Except OperatorError Unit) := do
  if p.search.status = some status then pure (.ok ())
  else
    let m := p.search.metadata
    match ← (Work.writeStatus (p.besideSearch .search) m.anyName m.resourceVersion (statusJson status)).run with
    | .ok _ => pure (.ok ())
    | .error (.conflict _) => pure (.ok ())
    | .error e => pure (.error e)

/-! ## The pass -/

/-- What a pass does once it has seen the live database configuration. -/
def applyDesired (p : Pass) (live : Option ConfigMap) : Plan Report := do
  let d := p.desired live
  let objects ← Plan.forEach syncOne (p.wanted d)
  let (status, features) ← p.reconcileFeatures (p.search.status.getD {}) Feature.all
  let written ← p.persist (finalStatus d status)
  pure (Report.concat objects ++ features ++ .ofResult ["status"] written)

/-- Apply everything that the Search asks for. Gives the notices and, if anything failed, all failures.
Without the live database configuration nothing is applied, since the user's settings would be lost. -/
def apply (p : Pass) : Plan (List Notice × Except OperatorError Unit) := do
  match ← (Work.fetch (p.besideSearch .configMap) Desired.databaseConfigName).run with
  | .error e => pure ([], .error e)
  | .ok live =>
    let report ← p.applyDesired live
    pure (report.notices, report.failures.toResult)

/-! ## Cleanup -/

/-- Delete an object, if it carries the labels of the owner. -/
def deleteOwned (owner : Owner) (r : StoreRef) (name : String) : Work Bool := do
  match ← Work.fetch r name with
  | none => pure false
  | some o =>
    if owner.owns (r.kind.metadata o) then ensureDeleted r (r.kind.objectKindName o) name
    else pure false

/-- Remove the resources of the features and the objects of the whole cluster; everything else goes with
the Search. Gives all failures, if anything failed. -/
def cleanup (p : Pass) : Plan (Except OperatorError Unit) := do
  let features ← (Feature.sweepAll p.owner).run
  let binding ← (deleteOwned p.owner ⟨.clusterRoleBinding, none⟩ Desired.clusterRoleName).run
  let role ← (deleteOwned p.owner ⟨.clusterRole, none⟩ Desired.clusterRoleName).run
  let report := Report.ofResult ["features"] features ++ .ofResult ["ClusterRoleBinding"] binding ++
    .ofResult ["ClusterRole"] role
  pure report.failures.toResult

end Pass

end HubSearch
