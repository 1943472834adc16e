/-
Cluster roles and their bindings: rules that grant verbs on resources, and the subjects that get
them.
-/
import HubSearch.Object.ApiType

namespace HubSearch

/-- The group of the RBAC kinds. -/
def rbacGroup : String := "rbac.authorization.k8s.io"

/-- A rule: the verbs granted, and what they are granted on. -/
structure PolicyRule where
  apiGroups : Option (List String) := none
  nonResourceURLs : Option (List String) := none
  resourceNames : Option (List String) := none
  resources : Option (List String) := none
  verbs : List String := []
  deriving DecidableEq, Inhabited

/-- Roles whose rules are collected from other roles. -/
structure AggregationRule where
  clusterRoleSelectors : Option (List LabelSelector) := none
  deriving DecidableEq, Inhabited

/-- A role of the whole cluster. -/
structure ClusterRole where
  metadata : ObjectMeta := {}
  rules : Option (List PolicyRule) := none
  aggregationRule : Option AggregationRule := none
  deriving DecidableEq, Inhabited

/-- The role that a binding grants. -/
structure RoleRef where
  apiGroup : String := ""
  kind : String := ""
  name : String := ""
  deriving DecidableEq, Inhabited

/-- Who gets a role. -/
structure Subject where
  apiGroup : Option String := none
  kind : String := ""
  name : String := ""
  inNamespace : Option String := none
  deriving DecidableEq, Inhabited

/-- A role granted in the whole cluster. -/
structure ClusterRoleBinding where
  metadata : ObjectMeta := {}
  roleRef : RoleRef := {}
  subjects : Option (List Subject) := none
  deriving DecidableEq, Inhabited

instance : Encode PolicyRule where
  encode r := .record [
    ("apiGroups", whenSome r.apiGroups),
    ("nonResourceURLs", whenSome r.nonResourceURLs),
    ("resourceNames", whenSome r.resourceNames),
    ("resources", whenSome r.resources),
    ("verbs", always r.verbs)]

instance : Decode PolicyRule := .record "PolicyRule" <|
  PolicyRule.mk <$> .optional "apiGroups"
    <*> .optional "nonResourceURLs"
    <*> .optional "resourceNames"
    <*> .optional "resources"
    <*> .defaulted "verbs" []

instance : Encode AggregationRule :=
  ⟨fun r => .record [("clusterRoleSelectors", whenSome r.clusterRoleSelectors)]⟩

instance : Decode AggregationRule := .record "AggregationRule" <|
  AggregationRule.mk <$> .optional "clusterRoleSelectors"

namespace ClusterRole

/-- The API of cluster roles. -/
def api : ApiType := ⟨rbacGroup, "v1", "ClusterRole", "clusterroles"⟩

instance : Encode ClusterRole where
  encode r := .record [
    ("aggregationRule", whenSome r.aggregationRule),
    ("apiVersion", always api.apiVersion),
    ("kind", always api.kind),
    ("metadata", always r.metadata),
    ("rules", whenSome r.rules)]

instance : Decode ClusterRole := .object api <|
  ClusterRole.mk <$> .defaulted "metadata" {}
    <*> .optional "rules"
    <*> .optional "aggregationRule"

end ClusterRole

instance : Encode RoleRef where
  encode r := .record [
    ("apiGroup", always r.apiGroup),
    ("kind", always r.kind),
    ("name", always r.name)]

instance : Decode RoleRef := .record "RoleRef" <|
  RoleRef.mk <$> .defaulted "apiGroup" ""
    <*> .defaulted "kind" ""
    <*> .defaulted "name" ""

instance : Encode Subject where
  encode s := .record [
    ("apiGroup", whenSome s.apiGroup),
    ("kind", always s.kind),
    ("name", always s.name),
    ("namespace", whenSome s.inNamespace)]

instance : Decode Subject := .record "Subject" <|
  Subject.mk <$> .optional "apiGroup"
    <*> .defaulted "kind" ""
    <*> .defaulted "name" ""
    <*> .optional "namespace"

namespace ClusterRoleBinding

/-- The API of cluster role bindings. -/
def api : ApiType := ⟨rbacGroup, "v1", "ClusterRoleBinding", "clusterrolebindings"⟩

instance : Encode ClusterRoleBinding where
  encode b := .record [
    ("apiVersion", always api.apiVersion),
    ("kind", always api.kind),
    ("metadata", always b.metadata),
    ("roleRef", always b.roleRef),
    ("subjects", whenSome b.subjects)]

instance : Decode ClusterRoleBinding := .object api <|
  ClusterRoleBinding.mk <$> .defaulted "metadata" {}
    <*> .defaulted "roleRef" {}
    <*> .optional "subjects"

end ClusterRoleBinding

end HubSearch
