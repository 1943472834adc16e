/-
The definition by which a cluster learns of the Search kind: its names, its printed columns and the
schema of its spec and status. Of the types that the cluster itself defines, the schema says only which
JSON type they have.
-/
import HubSearch.Search.Basic

namespace HubSearch.Search.Definition

/-! ## Schemas -/

/-- A schema: its JSON type, what it says of itself, and more. -/
def schema (type : String) (description : Option String) (nullable : Bool)
    (more : List (String × Json)) : Json :=
  .object (Entries.insertAll [] (
    [("type", .string type)] ++
      (match description with
        | some d => [("description", .string d)]
        | none => []) ++
      (if nullable then [("nullable", .bool true)] else []) ++ more))

/-- A text that may be left out. -/
def optionalText (description : Option String) : Json := schema "string" description true []

/-- An array that may be left out. -/
def optionalArray (description : Option String) (item : Json) : Json :=
  schema "array" description true [("items", item)]

/-- The properties of an object. -/
def properties (ps : List (String × Json)) : String × Json := ("properties", .object (Entries.insertAll [] ps))

/-- A type that the cluster defines. -/
def clusterType : Json := schema "object" none false []

/-- The schema of the storage of the database. -/
def storageSchema : Json :=
  schema "object" (some "Storage of the database. Without it the database uses an emptyDir volume") true
    [properties [
      ("storageClassName", optionalText none),
      ("size", optionalText (some "Requested size, e.g. \"10Gi\""))]]

/-- The schema of the overrides of a workload. -/
def overridesSchema : Json :=
  schema "object" (some "Per-workload overrides") true
    [properties [
      ("replicaCount", schema "integer" none true [("format", .string "int32")]),
      ("resources", schema "object" none true []),
      ("imageOverride", optionalText none),
      ("arguments", optionalArray none (schema "string" none false [])),
      ("env", optionalArray none clusterType)]]

/-- The schema of the spec. -/
def specSchema : Json :=
  schema "object" none false
    [properties [
      ("dbStorage", storageSchema),
      ("imagePullSecret", optionalText (some "Image pull secret used by every search workload")),
      ("imagePullPolicy", optionalText none),
      ("nodeSelector",
        schema "object" none true [("additionalProperties", schema "string" none false [])]),
      ("tolerations", optionalArray none clusterType),
      ("deployments", schema "object" none false
        [("default", .object []),
          properties (["collector", "indexer", "database", "queryapi"].map (·, overridesSchema))])]]

/-- The schema of the status. -/
def statusSchema : Json :=
  schema "object" none true
    [properties [
      ("db", optionalText (some "Name of the database deployment")),
      ("storage", optionalText (some "Storage used by the database: a PVC name or \"EmptyDir\"")),
      ("conditions", optionalArray
        (some ("Outcome of the optional features, one condition per feature - GlobalSearchReady - " ++
          "VirtualMachineActionsReady - FineGrainedRbacReady")) clusterType)]]

/-! ## The definition -/

/-- A column that a listing of Searches shows. -/
def column (name path : String) : Json :=
  .object [("jsonPath", .string path), ("name", .string name), ("type", .string "string")]

/-- The only version of the kind. -/
def version : Json :=
  .object [
    ("additionalPrinterColumns",
      .array [column "Database" ".status.db", column "Storage" ".status.storage"]),
    ("name", .string api.version),
    ("schema", .object [("openAPIV3Schema",
      schema "object" (some "Search deploys and configures the search application on the hub") false
        [("title", .string api.kind), ("required", .array [.string "spec"]),
          properties [("spec", specSchema), ("status", statusSchema)]])]),
    ("served", .bool true),
    ("storage", .bool true),
    ("subresources", .object [("status", .object [])])]

/-- The definition of the Search kind. -/
def json : Json :=
  .object [
    ("apiVersion", .string "apiextensions.k8s.io/v1"),
    ("kind", .string "CustomResourceDefinition"),
    ("metadata", .object [("name", .string (api.plural ++ "." ++ api.group))]),
    ("spec", .object [
      ("group", .string api.group),
      ("names", .object [
        ("categories", .array []),
        ("kind", .string api.kind),
        ("plural", .string api.plural),
        ("shortNames", .array [.string "srch"]),
        ("singular", .string "search")]),
      ("scope", .string "Namespaced"),
      ("versions", .array [version])])]

end HubSearch.Search.Definition
