/-
Services: a stable address in front of the pods that a selector names. Ports are compared, and have all fields of the
cluster's. Of the spec these are left out, since nothing sets, reads or compares them, and an update leaves them as
they are: `allocateLoadBalancerNodePorts`, `clusterIPs`, `externalIPs`, `externalName`, `externalTrafficPolicy`,
`healthCheckNodePort`, `internalTrafficPolicy`, `ipFamilies`, `ipFamilyPolicy`, `loadBalancerClass`, `loadBalancerIP`,
`loadBalancerSourceRanges`, `publishNotReadyAddresses`, `sessionAffinityConfig` and `trafficDistribution`. So is the
status of a service.
-/
import HubSearch.Object.ApiType

namespace HubSearch

/-- A port by its number or by its name. -/
inductive PortTarget where
  | number (port : Int32)
  | name (port : String)
  deriving DecidableEq, Inhabited

/-- A port of a service. -/
structure ServicePort where
  appProtocol : Option String := none
  name : Option String := none
  nodePort : Option Int32 := none
  port : Int32 := 0
  protocol : Option String := none
  targetPort : Option PortTarget := none
  deriving DecidableEq, Inhabited

/-- What a service is meant to be. -/
structure ServiceSpec where
  selector : Option (Dict String) := none
  ports : Option (List ServicePort) := none
  clusterIP : Option String := none
  type : Option String := none
  sessionAffinity : Option String := none
  deriving DecidableEq, Inhabited

/-- A service. -/
structure Service where
  metadata : ObjectMeta := {}
  spec : Option ServiceSpec := none
  deriving DecidableEq, Inhabited

instance : Encode PortTarget where
  encode
    | .number p => encode p
    | .name p => encode p

instance : Decode PortTarget where
  shape := .integerOrString "IntOrString"
  decode?
    | .string s => some (.name s)
    | j => (decode? j).map .number

instance : Encode ServicePort where
  encode p := .record [
    ("appProtocol", whenSome p.appProtocol),
    ("name", whenSome p.name),
    ("nodePort", whenSome p.nodePort),
    ("port", always p.port),
    ("protocol", whenSome p.protocol),
    ("targetPort", whenSome p.targetPort)]

instance : Decode ServicePort := .record "ServicePort" <|
  ServicePort.mk <$> .optional "appProtocol"
    <*> .optional "name"
    <*> .optional "nodePort"
    <*> .defaulted "port" 0
    <*> .optional "protocol"
    <*> .optional "targetPort"

instance : Encode ServiceSpec where
  encode s := .record [
    ("clusterIP", whenSome s.clusterIP),
    ("ports", whenSome s.ports),
    ("selector", whenSome s.selector),
    ("sessionAffinity", whenSome s.sessionAffinity),
    ("type", whenSome s.type)]

instance : Decode ServiceSpec := .record "ServiceSpec" <|
  ServiceSpec.mk <$> .optional "selector"
    <*> .optional "ports"
    <*> .optional "clusterIP"
    <*> .optional "type"
    <*> .optional "sessionAffinity"

namespace Service

/-- The API of services. -/
def api : ApiType := ⟨"", "v1", "Service", "services"⟩

instance : Encode Service where
  encode s := .record [
    ("apiVersion", always api.apiVersion),
    ("kind", always api.kind),
    ("metadata", always s.metadata),
    ("spec", whenSome s.spec)]

instance : Decode Service := .object api <|
  Service.mk <$> .defaulted "metadata" {}
    <*> .optional "spec"

end Service

end HubSearch
