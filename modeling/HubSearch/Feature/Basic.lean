/-
The optional features of the search application: how each is switched on, what it requires, where its
resources live, and the state that its condition stands for.
-/
import HubSearch.Search.Basic

namespace HubSearch

/-- An optional feature. -/
inductive Feature where
  | globalSearch
  | virtualMachineActions
  | fineGrainedRbac
  deriving DecidableEq, Inhabited

/-- Where the resources of a feature live. -/
inductive FeatureScope where
  | managedClusters
  | hub
  deriving DecidableEq, Inhabited

namespace Feature

/-- All features, in the order in which they are brought up. -/
def all : List Feature := [.globalSearch, .virtualMachineActions, .fineGrainedRbac]

/-- The name of a feature in messages and labels. -/
def name : Feature → String
  | .globalSearch => "GlobalSearch"
  | .virtualMachineActions => "VirtualMachineActions"
  | .fineGrainedRbac => "FineGrainedRbac"

/-- The annotation that switches a feature on. -/
def toggleKey : Feature → String
  | .globalSearch => "global-search-preview"
  | .virtualMachineActions => "virtual-machine-preview"
  | .fineGrainedRbac => "fine-grained-rbac-preview"

/-- The type of the condition that reports a feature. -/
def conditionType : Feature → String
  | .globalSearch => "GlobalSearchReady"
  | .virtualMachineActions => "VirtualMachineActionsReady"
  | .fineGrainedRbac => "FineGrainedRbacReady"

/-- The variable that tells the search API about a feature. -/
def envFlag : Feature → String
  | .globalSearch => "FEATURE_GLOBAL_SEARCH"
  | .virtualMachineActions => "FEATURE_VIRTUAL_MACHINE"
  | .fineGrainedRbac => "FEATURE_FINE_GRAINED_RBAC"

/-- The add-ons that must be installed. -/
def requiredAddons : Feature → List String
  | .globalSearch => ["managed-serviceaccount"]
  | .virtualMachineActions => ["managed-serviceaccount"]
  | .fineGrainedRbac => []

/-- The components of the MultiClusterEngine that must be switched on. -/
def requiredComponents : Feature → List String
  | .globalSearch => ["managedserviceaccount", "cluster-proxy-addon"]
  | .virtualMachineActions => ["managedserviceaccount", "cluster-permission"]
  | .fineGrainedRbac => ["cluster-permission"]

/-- Where the resources of a feature live. -/
def scope : Feature → FeatureScope
  | .globalSearch => .managedClusters
  | .virtualMachineActions => .managedClusters
  | .fineGrainedRbac => .hub

/-- The reason of a condition whose feature is on. -/
def reasonEnabled : String := "FeatureEnabled"

/-- The reason of a condition whose feature has been switched off. -/
def reasonDisabled : String := "FeatureDisabled"

end Feature

/-! ## Toggles -/

/-- Which features are switched on. -/
structure FeatureToggles where
  isEnabled : Feature → Bool

namespace FeatureToggles

/-- The features that the annotations of a Search switch on. -/
def ofSearch (s : Search) : FeatureToggles := ⟨fun f => s.annotationEnabled f.toggleKey⟩

/-- The features of a list switched on. -/
def ofList (fs : List Feature) : FeatureToggles := ⟨fun f => fs.contains f⟩

/-- The features that are on. -/
def enabled (t : FeatureToggles) : List Feature := Feature.all.filter t.isEnabled

/-- A variable for each feature that is on. -/
def envFlags (t : FeatureToggles) : List EnvVar :=
  t.enabled.map fun f => { name := f.envFlag, value := some "true" }

end FeatureToggles

/-! ## States -/

/-- The state of a feature, as its condition tells. -/
inductive FeatureState where
  /-- No condition was written yet. -/
  | unset
  | enabled
  /-- Switched off after it had been on. -/
  | disabled
  /-- There is a condition, but the feature never became active. -/
  | inactive
  deriving DecidableEq, Inhabited

/-- The state that a condition stands for. -/
def FeatureState.ofCondition : Option Condition → FeatureState
  | none => .unset
  | some c =>
    if c.status = ConditionStatus.true.word then .enabled
    else if c.status = ConditionStatus.false.word ∧ c.reason = Feature.reasonDisabled then .disabled
    else .inactive

end HubSearch
