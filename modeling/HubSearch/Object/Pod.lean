/-
Pods: containers with their environment, resources and mounts, and the scheduling rules of the whole pod. Records
that are compared or replaced as a whole have all fields of the cluster's: variables, resources, mounts and
tolerations here, and volumes. Of the other ones these fields are left out, since nothing sets, reads or compares
them, and an update leaves them as they are in the live object:
- of a container `envFrom`, `lifecycle`, `readinessProbe`, `resizePolicy`, `restartPolicy`, `securityContext`,
  `startupProbe`, `stdin`, `stdinOnce`, `terminationMessagePolicy`, `tty` and `volumeDevices`;
- of its ports `hostIP`, `hostPort` and `name`, and of a probe all but `periodSeconds`;
- of a pod `activeDeadlineSeconds`, `affinity`, `automountServiceAccountToken`, `dnsConfig`, `dnsPolicy`,
  `enableServiceLinks`, `ephemeralContainers`, `hostAliases`, `hostIPC`, `hostNetwork`, `hostPID`, `hostUsers`,
  `hostname`, `nodeName`, `os`, `overhead`, `preemptionPolicy`, `priority`, `priorityClassName`, `readinessGates`,
  `resourceClaims`, `resources`, `runtimeClassName`, `schedulerName`, `schedulingGates`, `securityContext`,
  `serviceAccount`, `setHostnameAsFQDN`, `shareProcessNamespace`, `subdomain`, `terminationGracePeriodSeconds` and
  `topologySpreadConstraints`.
-/
import HubSearch.Object.Volume

namespace HubSearch

/-! ## Containers -/

/-- A key of a secret. -/
structure SecretKey where
  key : String := ""
  name : String := ""
  optional : Option Bool := none
  deriving DecidableEq, Inhabited

/-- A key of a ConfigMap. -/
structure ConfigMapKey where
  key : String := ""
  name : String := ""
  optional : Option Bool := none
  deriving DecidableEq, Inhabited

/-- Where the value of a variable comes from. -/
structure EnvVarSource where
  secretKeyRef : Option SecretKey := none
  configMapKeyRef : Option ConfigMapKey := none
  fieldRef : Option ObjectFieldSelector := none
  resourceFieldRef : Option ResourceFieldSelector := none
  deriving DecidableEq, Inhabited

/-- An environment variable. -/
structure EnvVar where
  name : String := ""
  value : Option String := none
  valueFrom : Option EnvVarSource := none
  deriving DecidableEq, Inhabited

/-- A resource of the pod that a container uses. -/
structure ResourceClaim where
  name : String := ""
  request : Option String := none
  deriving DecidableEq, Inhabited

/-- The resources that a container asks for and may not exceed, and those of the pod that it uses. -/
structure ResourceRequirements where
  limits : Option (Dict String) := none
  requests : Option (Dict String) := none
  claims : Option (List ResourceClaim) := none
  deriving DecidableEq, Inhabited

/-- Where a volume appears in a container. -/
structure VolumeMount where
  mountPath : String := ""
  name : String := ""
  readOnly : Option Bool := none
  subPath : Option String := none
  mountPropagation : Option String := none
  recursiveReadOnly : Option String := none
  subPathExpr : Option String := none
  deriving DecidableEq, Inhabited

/-- A port that a container listens on. -/
structure ContainerPort where
  containerPort : Int32 := 0
  protocol : Option String := none
  deriving DecidableEq, Inhabited

/-- A health check. -/
structure Probe where
  periodSeconds : Option Int32 := none
  deriving DecidableEq, Inhabited

/-- A container. -/
structure Container where
  name : String := ""
  image : Option String := none
  imagePullPolicy : Option String := none
  command : Option (List String) := none
  args : Option (List String) := none
  env : Option (List EnvVar) := none
  resources : Option ResourceRequirements := none
  volumeMounts : Option (List VolumeMount) := none
  ports : Option (List ContainerPort) := none
  workingDir : Option String := none
  terminationMessagePath : Option String := none
  livenessProbe : Option Probe := none
  deriving DecidableEq, Inhabited

instance : Encode SecretKey where
  encode k := .record [
    ("key", always k.key),
    ("name", always k.name),
    ("optional", whenSome k.optional)]

instance : Decode SecretKey := .record "SecretKeySelector" <|
  SecretKey.mk <$> .defaulted "key" ""
    <*> .defaulted "name" ""
    <*> .optional "optional"

instance : Encode ConfigMapKey where
  encode k := .record [
    ("key", always k.key),
    ("name", always k.name),
    ("optional", whenSome k.optional)]

instance : Decode ConfigMapKey := .record "ConfigMapKeySelector" <|
  ConfigMapKey.mk <$> .defaulted "key" ""
    <*> .defaulted "name" ""
    <*> .optional "optional"

instance : Encode EnvVarSource where
  encode s := .record [
    ("configMapKeyRef", whenSome s.configMapKeyRef),
    ("fieldRef", whenSome s.fieldRef),
    ("resourceFieldRef", whenSome s.resourceFieldRef),
    ("secretKeyRef", whenSome s.secretKeyRef)]

instance : Decode EnvVarSource := .record "EnvVarSource" <|
  EnvVarSource.mk <$> .optional "secretKeyRef"
    <*> .optional "configMapKeyRef"
    <*> .optional "fieldRef"
    <*> .optional "resourceFieldRef"

instance : Encode EnvVar where
  encode v := .record [
    ("name", always v.name),
    ("value", whenSome v.value),
    ("valueFrom", whenSome v.valueFrom)]

instance : Decode EnvVar := .record "EnvVar" <|
  EnvVar.mk <$> .defaulted "name" ""
    <*> .optional "value"
    <*> .optional "valueFrom"

instance : Encode ResourceClaim where
  encode c := .record [
    ("name", always c.name),
    ("request", whenSome c.request)]

instance : Decode ResourceClaim := .record "ResourceClaim" <|
  ResourceClaim.mk <$> .defaulted "name" ""
    <*> .optional "request"

instance : Encode ResourceRequirements where
  encode r := .record [
    ("claims", whenSome r.claims),
    ("limits", whenSome r.limits),
    ("requests", whenSome r.requests)]

instance : Decode ResourceRequirements := .record "ResourceRequirements" <|
  ResourceRequirements.mk <$> .optional "limits"
    <*> .optional "requests"
    <*> .optional "claims"

instance : Encode VolumeMount where
  encode m := .record [
    ("mountPath", always m.mountPath),
    ("mountPropagation", whenSome m.mountPropagation),
    ("name", always m.name),
    ("readOnly", whenSome m.readOnly),
    ("recursiveReadOnly", whenSome m.recursiveReadOnly),
    ("subPath", whenSome m.subPath),
    ("subPathExpr", whenSome m.subPathExpr)]

instance : Decode VolumeMount := .record "VolumeMount" <|
  VolumeMount.mk <$> .defaulted "mountPath" ""
    <*> .defaulted "name" ""
    <*> .optional "readOnly"
    <*> .optional "subPath"
    <*> .optional "mountPropagation"
    <*> .optional "recursiveReadOnly"
    <*> .optional "subPathExpr"

instance : Encode ContainerPort where
  encode p := .record [
    ("containerPort", always p.containerPort),
    ("protocol", whenSome p.protocol)]

instance : Decode ContainerPort := .record "ContainerPort" <|
  ContainerPort.mk <$> .defaulted "containerPort" 0
    <*> .optional "protocol"

instance : Encode Probe := ⟨fun p => .record [("periodSeconds", whenSome p.periodSeconds)]⟩

instance : Decode Probe := .record "Probe" <| Probe.mk <$> .optional "periodSeconds"

instance : Encode Container where
  encode c := .record [
    ("args", whenSome c.args),
    ("command", whenSome c.command),
    ("env", whenSome c.env),
    ("image", whenSome c.image),
    ("imagePullPolicy", whenSome c.imagePullPolicy),
    ("livenessProbe", whenSome c.livenessProbe),
    ("name", always c.name),
    ("ports", whenSome c.ports),
    ("resources", whenSome c.resources),
    ("terminationMessagePath", whenSome c.terminationMessagePath),
    ("volumeMounts", whenSome c.volumeMounts),
    ("workingDir", whenSome c.workingDir)]

instance : Decode Container := .record "Container" <|
  Container.mk <$> .defaulted "name" ""
    <*> .optional "image"
    <*> .optional "imagePullPolicy"
    <*> .optional "command"
    <*> .optional "args"
    <*> .optional "env"
    <*> .optional "resources"
    <*> .optional "volumeMounts"
    <*> .optional "ports"
    <*> .optional "workingDir"
    <*> .optional "terminationMessagePath"
    <*> .optional "livenessProbe"

/-! ## Pods -/

/-- A taint of a node that a pod puts up with. -/
structure Toleration where
  effect : Option String := none
  key : Option String := none
  operator : Option String := none
  tolerationSeconds : Option Int64 := none
  value : Option String := none
  deriving DecidableEq, Inhabited

/-- What a pod is meant to be. -/
structure PodSpec where
  containers : List Container := []
  initContainers : Option (List Container) := none
  nodeSelector : Option (Dict String) := none
  tolerations : Option (List Toleration) := none
  imagePullSecrets : Option (List LocalObjectReference) := none
  restartPolicy : Option String := none
  serviceAccountName : Option String := none
  volumes : Option (List Volume) := none
  deriving DecidableEq, Inhabited

instance : Encode Toleration where
  encode t := .record [
    ("effect", whenSome t.effect),
    ("key", whenSome t.key),
    ("operator", whenSome t.operator),
    ("tolerationSeconds", whenSome t.tolerationSeconds),
    ("value", whenSome t.value)]

instance : Decode Toleration := .record "Toleration" <|
  Toleration.mk <$> .optional "effect"
    <*> .optional "key"
    <*> .optional "operator"
    <*> .optional "tolerationSeconds"
    <*> .optional "value"

instance : Encode PodSpec where
  encode s := .record [
    ("containers", always s.containers),
    ("imagePullSecrets", whenSome s.imagePullSecrets),
    ("initContainers", whenSome s.initContainers),
    ("nodeSelector", whenSome s.nodeSelector),
    ("restartPolicy", whenSome s.restartPolicy),
    ("serviceAccountName", whenSome s.serviceAccountName),
    ("tolerations", whenSome s.tolerations),
    ("volumes", whenSome s.volumes)]

instance : Decode PodSpec := .record "PodSpec" <|
  PodSpec.mk <$> .defaulted "containers" []
    <*> .optional "initContainers"
    <*> .optional "nodeSelector"
    <*> .optional "tolerations"
    <*> .optional "imagePullSecrets"
    <*> .optional "restartPolicy"
    <*> .optional "serviceAccountName"
    <*> .optional "volumes"

end HubSearch
