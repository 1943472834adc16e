/-
The Search object: what the user asks for, with overrides per workload, and what the operator reports
back. Its records are read strictly: a wrong shape anywhere is refused, and metadata and spec must be
there.
-/
import HubSearch.Component
import HubSearch.Condition
import HubSearch.Object.Pod

namespace HubSearch

/-- The storage of the database. -/
structure StorageSpec where
  storageClassName : Option String := none
  /-- The size asked for, such as `10Gi`. -/
  size : Option String := none
  deriving DecidableEq, Inhabited

/-- The overrides of one workload. -/
structure DeploymentConfig where
  replicaCount : Option Int32 := none
  resources : Option ResourceRequirements := none
  imageOverride : Option String := none
  arguments : Option (List String) := none
  env : Option (List EnvVar) := none
  deriving DecidableEq, Inhabited

/-- The overrides of the workloads. -/
structure SearchDeployments where
  collector : Option DeploymentConfig := none
  indexer : Option DeploymentConfig := none
  database : Option DeploymentConfig := none
  queryApi : Option DeploymentConfig := none
  deriving DecidableEq, Inhabited

/-- What the user asks for. -/
structure SearchSpec where
  /-- Without it the database keeps its data in its pod. -/
  dbStorage : Option StorageSpec := none
  /-- The pull secret of every workload. -/
  imagePullSecret : Option String := none
  imagePullPolicy : Option String := none
  nodeSelector : Option (Dict String) := none
  tolerations : Option (List Toleration) := none
  deployments : SearchDeployments := {}
  deriving DecidableEq, Inhabited

/-- What the operator reports. -/
structure SearchStatus where
  /-- The name of the database deployment. -/
  db : Option String := none
  /-- The claim that the database uses, or `EmptyDir`. -/
  storage : Option String := none
  /-- The outcome of the optional features, a condition each. -/
  conditions : Option (List Condition) := none
  deriving DecidableEq, Inhabited

/-- A Search. -/
structure Search where
  metadata : ObjectMeta := {}
  spec : SearchSpec := {}
  status : Option SearchStatus := none
  deriving DecidableEq, Inhabited

/-- The overrides of a workload. -/
def SearchDeployments.get? (d : SearchDeployments) : Component → Option DeploymentConfig
  | .collector => d.collector
  | .indexer => d.indexer
  | .database => d.database
  | .api => d.queryApi

/-! ## Written form -/

instance : Encode StorageSpec where
  encode s := .record [
    ("size", whenSome s.size),
    ("storageClassName", whenSome s.storageClassName)]

instance : Decode StorageSpec := .strict "struct StorageSpec" <|
  StorageSpec.mk <$> .optional "storageClassName"
    <*> .optional "size"

instance : Encode DeploymentConfig where
  encode c := .record [
    ("arguments", whenSome c.arguments),
    ("env", whenSome c.env),
    ("imageOverride", whenSome c.imageOverride),
    ("replicaCount", whenSome c.replicaCount),
    ("resources", whenSome c.resources)]

instance : Decode DeploymentConfig := .strict "struct DeploymentConfig" <|
  DeploymentConfig.mk <$> .optional "replicaCount"
    <*> .optional "resources"
    <*> .optional "imageOverride"
    <*> .optional "arguments"
    <*> .optional "env"

instance : Encode SearchDeployments where
  encode d := .record [
    ("collector", whenSome d.collector),
    ("database", whenSome d.database),
    ("indexer", whenSome d.indexer),
    ("queryapi", whenSome d.queryApi)]

instance : Decode SearchDeployments := .strict "struct SearchDeployments" <|
  SearchDeployments.mk <$> .optional "collector"
    <*> .optional "indexer"
    <*> .optional "database"
    <*> .optional "queryapi"

instance : Encode SearchSpec where
  encode s := .record [
    ("dbStorage", whenSome s.dbStorage),
    ("deployments", always s.deployments),
    ("imagePullPolicy", whenSome s.imagePullPolicy),
    ("imagePullSecret", whenSome s.imagePullSecret),
    ("nodeSelector", whenSome s.nodeSelector),
    ("tolerations", whenSome s.tolerations)]

/-- Overrides may be left out but not be `null`. -/
instance : Decode SearchSpec := .strict "struct SearchSpec" <|
  SearchSpec.mk <$> .optional "dbStorage"
    <*> .optional "imagePullSecret"
    <*> .optional "imagePullPolicy"
    <*> .optional "nodeSelector"
    <*> .optional "tolerations"
    <*> .leftOut "deployments" {}

instance : Encode SearchStatus where
  encode s := .record [
    ("conditions", whenSome s.conditions),
    ("db", whenSome s.db),
    ("storage", whenSome s.storage)]

instance : Decode SearchStatus := .strict "struct SearchStatus" <|
  SearchStatus.mk <$> .leftOut "db" none
    <*> .leftOut "storage" none
    <*> .leftOut "conditions" none

namespace Search

/-- The API of Searches. -/
def api : ApiType := ⟨"search.open-cluster-management.io", "v1alpha1", "Search", "searches"⟩

instance : Encode Search where
  encode s := .record [
    ("apiVersion", always api.apiVersion),
    ("kind", always api.kind),
    ("metadata", always s.metadata),
    ("spec", always s.spec),
    ("status", whenSome s.status)]

instance : Decode Search := .strict "struct Search" <|
  Search.mk <$> .required "metadata"
    <*> .required "spec"
    <*> .optional "status"

/-- The value of an annotation. -/
def annotated? (s : Search) (key : String) : Option String :=
  s.metadata.annotations.bind (·.get? key)

/-- Whether an annotation is `true`, in letters of any case. -/
def annotationEnabled (s : Search) (key : String) : Bool :=
  (s.annotated? key).any fun v => v.toList.map Char.toLower = "true".toList

end Search

namespace SearchStatus

/-- The conditions, none when the list is absent. -/
def conditionList (s : SearchStatus) : List Condition := s.conditions.getD []

/-- The condition of a type. -/
def condition? (s : SearchStatus) (type : String) : Option Condition := Condition.find? type s.conditionList

/-- Whether the condition of a type is true. -/
def isTrue (s : SearchStatus) (type : String) : Bool :=
  (s.condition? type).any (·.status = ConditionStatus.true.word)

/-- Set a condition, and whether that changed anything. The list is there afterwards. -/
def upsert (s : SearchStatus) (c : Condition) : SearchStatus × Bool :=
  ({ s with conditions := some (c.upsert s.conditionList) }, (c.upsert? s.conditionList).isSome)

/-- Set a condition that says whether something is so, and whether that changed anything. -/
def upsertBool (s : SearchStatus) (now : Timestamp) (type : String) (value : Bool) (reason : String)
    (message : Option String) (generation : Int64) : SearchStatus × Bool :=
  s.upsert (.new now type (.ofBool value) reason (message.getD "") generation)

/-- Drop the conditions of a type, and whether there were any. -/
def remove (s : SearchStatus) (type : String) : SearchStatus × Bool :=
  ({ s with conditions := s.conditions.map (Condition.remove type) }, s.conditionList.any (·.type = type))

end SearchStatus

end HubSearch
