/-
The objects that make up the search application, as a Search asks for them. Only what the operator owns
or needs when it creates an object is filled in; everything else is left to the cluster.
-/
import HubSearch.Config.Basic
import HubSearch.DatabaseConfig
import HubSearch.Feature.Basic
import HubSearch.Object.Kind
import HubSearch.Owner

namespace HubSearch.Desired

/-- The service account of every workload. -/
def serviceAccountName : String := "search-serviceaccount"

/-- The name of the cluster role and of its binding. -/
def clusterRoleName : String := "open-cluster-management:search"

/-- The name of the ConfigMap with the database configuration. -/
def databaseConfigName : String := "search-postgres"

/-- The name of the claim on the storage of the database. -/
def storageClaimName : String := "search-postgres-storage"

/-- What the status calls a database without a claim. -/
def emptyDirStorage : String := "EmptyDir"

/-- The size of a claim that gives none. -/
def defaultStorageSize : String := "10Gi"

/-- The name of the database. -/
def databaseName : String := "search"

/-- The annotation that has a certificate issued into a secret. -/
def servingCertKey : String := "service.beta.openshift.io/serving-cert-secret-name"

/-- The mode of the files of secrets and ConfigMaps, which the cluster would fill in. -/
def defaultVolumeMode : Int32 := 0o644

/-! ## Metadata -/

/-- The metadata of an owned object, in the namespace of the owner or of the whole cluster. -/
def ownedMeta (owner : Owner) (name : String) (namespaced : Bool) : ObjectMeta :=
  owner.adopt { name := some name, inNamespace := if namespaced then some owner.inNamespace else none }

/-- The labels that the pods of a workload are selected by. -/
def selector (c : Component) : List (String × String) := [("app", "search"), ("component", c.name)]

/-- The secrets to pull images with. -/
def pullSecrets (search : Search) : Option (List LocalObjectReference) :=
  search.spec.imagePullSecret.map fun name => [⟨name⟩]

/-! ## Accounts and roles -/

/-- The service account of the workloads. -/
def serviceAccount (search : Search) (owner : Owner) : ServiceAccount where
  metadata := ownedMeta owner serviceAccountName true
  automountServiceAccountToken := some true
  imagePullSecrets := pullSecrets search

/-- The role that reads everything and checks the access of users. -/
def clusterRole (owner : Owner) : ClusterRole where
  metadata := ownedMeta owner clusterRoleName false
  rules := some [
    { apiGroups := some ["*"], resources := some ["*"], verbs := ["get", "list", "watch"] },
    { apiGroups := some ["authentication.k8s.io"], resources := some ["tokenreviews"], verbs := ["create"] },
    { apiGroups := some ["authorization.k8s.io"],
      resources := some ["selfsubjectaccessreviews", "selfsubjectrulesreviews", "subjectaccessreviews"],
      verbs := ["create"] }]

/-- The role bound to the service account. -/
def clusterRoleBinding (owner : Owner) : ClusterRoleBinding where
  metadata := ownedMeta owner clusterRoleName false
  roleRef := { apiGroup := rbacGroup, kind := "ClusterRole", name := clusterRoleName }
  subjects := some [{ kind := "ServiceAccount", name := serviceAccountName, inNamespace := some owner.inNamespace }]

/-! ## Database configuration and storage -/

/-- The database configuration as this release generates it, without settings of the user. -/
def databaseConfig (owner : Owner) : ConfigMap where
  metadata := ownedMeta owner databaseConfigName true
  data := some (DatabaseConfig.freshData DatabaseConfig.template)

/-- The claim on the storage of the database, when there is any. It is labelled but refers to no owner,
so that the data outlives the Search. -/
def storageClaim (search : Search) (owner : Owner) : Option PersistentVolumeClaim :=
  search.spec.dbStorage.map fun storage =>
    { metadata := owner.label { name := some storageClaimName, inNamespace := some owner.inNamespace }
      spec := some {
        accessModes := some ["ReadWriteOnce"]
        storageClassName := storage.storageClassName
        resources := some { requests := some (.ofList [("storage", storage.size.getD defaultStorageSize)]) } } }

/-! ## Services -/

/-- The service in front of a workload. -/
def service (owner : Owner) (c : Component) : Service where
  metadata := { ownedMeta owner c.name true with
    annotations := some (.ofList [(servingCertKey, c.tlsSecret)]) }
  spec := some {
    selector := some (.ofList (selector c))
    ports := c.port?.map fun p =>
      [{ name := some (c.name ++ "-port"), port := p, targetPort := some (.number p), protocol := some "TCP" }] }

/-! ## Deployments -/

/-- A variable with a value. -/
def env (name value : String) : EnvVar := { name := name, value := some value }

/-- A port as text. -/
def portText (c : Component) : String := toString (c.port?.getD 0).toInt

/-- The address of a workload inside the cluster. -/
def host (owner : Owner) (c : Component) : String := c.name ++ "." ++ owner.inNamespace ++ ".svc"

/-- The variables that name the database. -/
def databaseEnv (owner : Owner) : List EnvVar :=
  [env "DB_HOST" (host owner .database), env "DB_PORT" (portText .database), env "DB_NAME" databaseName]

/-- The environment of a workload; the variables of the user come last. -/
def componentEnv (search : Search) (owner : Owner) (toggles : FeatureToggles) (c : Component) : List EnvVar :=
  let own := match c with
    | .database => [env "POSTGRESQL_DATABASE" databaseName, env "POSTGRESQL_SHARED_BUFFERS" "1GB"]
    | .indexer => databaseEnv owner
    | .api => databaseEnv owner ++ toggles.envFlags
    | .collector => [env "CLUSTER_NAME" "local-cluster",
        env "AGGREGATOR_URL" ("https://" ++ host owner .indexer ++ ":" ++ portText .indexer)]
  own ++ ((search.spec.deployments.get? c).bind (·.env)).getD []

/-- The resources of a workload: those of the user, else the default sizes. -/
def resources (c : Component) (overrides : Option DeploymentConfig) : ResourceRequirements :=
  (overrides.bind (·.resources)).getD {
    requests := some (.ofList [("cpu", c.sizing.cpuRequest), ("memory", c.sizing.memoryRequest)])
    limits := some (.ofList [("memory", c.sizing.memoryLimit)]) }

/-- The volumes of a workload with the places where they are mounted: the certificate of one that
listens, and the configuration and data of the database. -/
def mountedVolumes (search : Search) (c : Component) : List (Volume × VolumeMount) :=
  let tls := if c.port?.isSome then
      [({ name := "tls", secret := some { secretName := some c.tlsSecret, defaultMode := some defaultVolumeMode } },
        { name := "tls", mountPath := "/sslcert", readOnly := some true })]
    else []
  let data : Volume := match search.spec.dbStorage with
    | some _ => { name := "postgresdb", persistentVolumeClaim := some { claimName := storageClaimName } }
    | none => { name := "postgresdb", emptyDir := some {} }
  let database : List (Volume × VolumeMount) := if c = .database then
      [({ name := "postgresql-cfg",
          configMap := some { name := databaseConfigName, defaultMode := some defaultVolumeMode } },
        { name := "postgresql-cfg", mountPath := "/opt/app-root/src/postgresql-cfg" }),
       (data, { name := "postgresdb", mountPath := "/var/lib/pgsql/data" })]
    else []
  tls ++ database

/-- The container of a workload. -/
def container (search : Search) (owner : Owner) (config : OperatorConfig) (toggles : FeatureToggles)
    (c : Component) : Container :=
  let overrides := search.spec.deployments.get? c
  { name := c.name
    image := some ((overrides.bind (·.imageOverride)).getD (config.image c))
    imagePullPolicy := search.spec.imagePullPolicy
    args := overrides.bind (·.arguments)
    env := some (componentEnv search owner toggles c)
    resources := some (resources c overrides)
    ports := c.port?.map fun p => [{ containerPort := p, protocol := some "TCP" }]
    volumeMounts := some ((mountedVolumes search c).map (·.2)) }

/-- The deployment of a workload. Replicas that the user does not give are left to the cluster. -/
def deployment (search : Search) (owner : Owner) (config : OperatorConfig) (toggles : FeatureToggles)
    (c : Component) : Deployment where
  metadata := (ownedMeta owner c.name true).withLabels (selector c)
  spec := some {
    replicas := (search.spec.deployments.get? c).bind (·.replicaCount)
    selector := { matchLabels := some (.ofList (selector c)) }
    template := {
      metadata := some { labels := some (.ofList (selector c)) }
      spec := some {
        serviceAccountName := some serviceAccountName
        nodeSelector := search.spec.nodeSelector
        tolerations := search.spec.tolerations
        imagePullSecrets := pullSecrets search
        containers := [container search owner config toggles c]
        volumes := some ((mountedVolumes search c).map (·.1)) } } }

end HubSearch.Desired

namespace HubSearch

/-- Everything that is applied in the namespace of the Search and in the whole cluster. -/
structure DesiredState where
  serviceAccount : ServiceAccount
  clusterRole : ClusterRole
  clusterRoleBinding : ClusterRoleBinding
  databaseConfig : ConfigMap
  services : List Service
  deployments : List Deployment
  storageClaim : Option PersistentVolumeClaim

namespace DesiredState

/-- The objects that a Search asks for. -/
def build (search : Search) (owner : Owner) (config : OperatorConfig) (toggles : FeatureToggles) :
    DesiredState where
  serviceAccount := Desired.serviceAccount search owner
  clusterRole := Desired.clusterRole owner
  clusterRoleBinding := Desired.clusterRoleBinding owner
  databaseConfig := Desired.databaseConfig owner
  services := [.database, .indexer, .api].map (Desired.service owner)
  deployments := Component.all.map (Desired.deployment search owner config toggles)
  storageClaim := Desired.storageClaim search owner

/-- What the status says of the storage. -/
def storageName (d : DesiredState) : String :=
  (d.storageClaim.bind (·.metadata.name)).getD Desired.emptyDirStorage

end DesiredState

end HubSearch
