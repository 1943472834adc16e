/-
The configuration of the operator: the image of each workload, how often a Search is looked at, and
how the operator reports. `Sizing` holds the default resources of the workloads.
-/
import HubSearch.Component
import HubSearch.Config.Duration

namespace HubSearch

/-- How log lines are written. -/
inductive LogFormat where
  | compact
  | json
  deriving DecidableEq, Inhabited

namespace LogFormat

/-- The word for a format. -/
def word : LogFormat → String
  | .compact => "compact"
  | .json => "json"

/-- All formats. -/
def all : List LogFormat := [.compact, .json]

end LogFormat

/-- The requeue interval that is not configured. -/
def defaultRequeueInterval : Duration := .ofSeconds 300 (by decide)

/-- The requeue interval after a failure that is not configured. -/
def defaultErrorRequeueInterval : Duration := .ofSeconds 30 (by decide)

/-- The configuration of the operator. -/
structure OperatorConfig where
  apiImage : String := "quay.io/stolostron/search-v2-api:latest"
  indexerImage : String := "quay.io/stolostron/search-indexer:latest"
  collectorImage : String := "quay.io/stolostron/search-collector:latest"
  postgresImage : String := "quay.io/stolostron/postgresql-16:latest"
  /-- How long until a Search that was reconciled is looked at again. -/
  requeueInterval : Duration := defaultRequeueInterval
  /-- How long until a reconcile that failed is tried again. -/
  errorRequeueInterval : Duration := defaultErrorRequeueInterval
  logFormat : LogFormat := .compact
  /-- The address of the health server. -/
  probeAddress : String := "0.0.0.0:8080"
  deriving DecidableEq

/-- The image of a workload. -/
def OperatorConfig.image (c : OperatorConfig) : Component → String
  | .database => c.postgresImage
  | .indexer => c.indexerImage
  | .collector => c.collectorImage
  | .api => c.apiImage

/-- The resources of a workload that the Search does not size. -/
structure Sizing where
  cpuRequest : String
  memoryRequest : String
  memoryLimit : String
  deriving DecidableEq, Inhabited

/-- The default sizes. -/
def Component.sizing : Component → Sizing
  | .database => ⟨"25m", "1Gi", "16Gi"⟩
  | .indexer => ⟨"10m", "32Mi", "4Gi"⟩
  | .collector => ⟨"25m", "128Mi", "2Gi"⟩
  | .api => ⟨"10m", "512Mi", "2Gi"⟩

end HubSearch
