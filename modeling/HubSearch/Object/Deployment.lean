/-
Deployments: a number of pods made from one template. Left out, since nothing sets, reads or compares them, are
`minReadySeconds` and `progressDeadlineSeconds` of the spec, `rollingUpdate` of the strategy, and the status; an
update leaves them as they are.
-/
import HubSearch.Object.Pod
import HubSearch.Object.Rbac

namespace HubSearch

/-- The template of a pod. -/
structure PodTemplate where
  metadata : Option ObjectMeta := none
  spec : Option PodSpec := none
  deriving DecidableEq, Inhabited

/-- How pods are replaced. -/
structure DeploymentStrategy where
  type : Option String := none
  deriving DecidableEq, Inhabited

/-- What a deployment is meant to be. -/
structure DeploymentSpec where
  replicas : Option Int32 := none
  selector : LabelSelector := {}
  paused : Option Bool := none
  revisionHistoryLimit : Option Int32 := none
  strategy : Option DeploymentStrategy := none
  template : PodTemplate := {}
  deriving DecidableEq, Inhabited

/-- A deployment. -/
structure Deployment where
  metadata : ObjectMeta := {}
  spec : Option DeploymentSpec := none
  deriving DecidableEq, Inhabited

instance : Encode PodTemplate where
  encode t := .record [
    ("metadata", whenSome t.metadata),
    ("spec", whenSome t.spec)]

instance : Decode PodTemplate := .record "PodTemplateSpec" <|
  PodTemplate.mk <$> .optional "metadata"
    <*> .optional "spec"

instance : Encode DeploymentStrategy := ⟨fun s => .record [("type", whenSome s.type)]⟩

instance : Decode DeploymentStrategy := .record "DeploymentStrategy" <|
  DeploymentStrategy.mk <$> .optional "type"

instance : Encode DeploymentSpec where
  encode s := .record [
    ("paused", whenSome s.paused),
    ("replicas", whenSome s.replicas),
    ("revisionHistoryLimit", whenSome s.revisionHistoryLimit),
    ("selector", always s.selector),
    ("strategy", whenSome s.strategy),
    ("template", always s.template)]

instance : Decode DeploymentSpec := .record "DeploymentSpec" <|
  DeploymentSpec.mk <$> .optional "replicas"
    <*> .defaulted "selector" {}
    <*> .optional "paused"
    <*> .optional "revisionHistoryLimit"
    <*> .optional "strategy"
    <*> .defaulted "template" {}

namespace Deployment

/-- The API of deployments. -/
def api : ApiType := ⟨"apps", "v1", "Deployment", "deployments"⟩

instance : Encode Deployment where
  encode d := .record [
    ("apiVersion", always api.apiVersion),
    ("kind", always api.kind),
    ("metadata", always d.metadata),
    ("spec", whenSome d.spec)]

instance : Decode Deployment := .object api <|
  Deployment.mk <$> .defaulted "metadata" {}
    <*> .optional "spec"

end Deployment

end HubSearch
