/-
Volumes of pods, with every source that a cluster knows, since volumes are compared and written as whole records: a
live volume whose source is none of those that the operator asks for differs from each that it does. A part that
must be there is written always, and reads as an empty one where it is absent.
-/
import HubSearch.Object.PersistentVolumeClaim
import HubSearch.Object.ServiceAccount

namespace HubSearch

/-! ## Parts of objects -/

/-- A key, and the file that its value is in. -/
structure KeyToPath where
  key : String := ""
  mode : Option Int32 := none
  path : String := ""
  deriving DecidableEq, Inhabited

instance : Encode KeyToPath where
  encode v := .record [("key", always v.key), ("mode", whenSome v.mode), ("path", always v.path)]

instance : Decode KeyToPath := .record "KeyToPath" <|
  KeyToPath.mk <$> .defaulted "key" "" <*> .optional "mode" <*> .defaulted "path" ""

/-- A field of a pod. -/
structure ObjectFieldSelector where
  apiVersion : Option String := none
  fieldPath : String := ""
  deriving DecidableEq, Inhabited

instance : Encode ObjectFieldSelector where
  encode v := .record [("apiVersion", whenSome v.apiVersion), ("fieldPath", always v.fieldPath)]

instance : Decode ObjectFieldSelector := .record "ObjectFieldSelector" <|
  ObjectFieldSelector.mk <$> .optional "apiVersion" <*> .defaulted "fieldPath" ""

/-- An amount that a container asks for or may not exceed. -/
structure ResourceFieldSelector where
  containerName : Option String := none
  divisor : Option String := none
  resource : String := ""
  deriving DecidableEq, Inhabited

instance : Encode ResourceFieldSelector where
  encode v := .record [
    ("containerName", whenSome v.containerName), ("divisor", whenSome v.divisor),
    ("resource", always v.resource)]

instance : Decode ResourceFieldSelector := .record "ResourceFieldSelector" <|
  ResourceFieldSelector.mk <$> .optional "containerName" <*> .optional "divisor" <*> .defaulted "resource" ""

/-- A file that tells about the pod. -/
structure PodFieldFile where
  fieldRef : Option ObjectFieldSelector := none
  mode : Option Int32 := none
  path : String := ""
  resourceFieldRef : Option ResourceFieldSelector := none
  deriving DecidableEq, Inhabited

instance : Encode PodFieldFile where
  encode v := .record [
    ("fieldRef", whenSome v.fieldRef), ("mode", whenSome v.mode), ("path", always v.path),
    ("resourceFieldRef", whenSome v.resourceFieldRef)]

instance : Decode PodFieldFile := .record "DownwardAPIVolumeFile" <|
  PodFieldFile.mk <$> .optional "fieldRef" <*> .optional "mode" <*> .defaulted "path" ""
    <*> .optional "resourceFieldRef"

/-! ## Sources in the cluster -/

/-- A volume that lives as long as its pod. -/
structure EmptyDir where
  medium : Option String := none
  sizeLimit : Option String := none
  deriving DecidableEq, Inhabited

instance : Encode EmptyDir where
  encode v := .record [("medium", whenSome v.medium), ("sizeLimit", whenSome v.sizeLimit)]

instance : Decode EmptyDir := .record "EmptyDirVolumeSource" <|
  EmptyDir.mk <$> .optional "medium" <*> .optional "sizeLimit"

/-- A volume filled from a secret. -/
structure SecretVolume where
  defaultMode : Option Int32 := none
  items : Option (List KeyToPath) := none
  optional : Option Bool := none
  secretName : Option String := none
  deriving DecidableEq, Inhabited

instance : Encode SecretVolume where
  encode v := .record [
    ("defaultMode", whenSome v.defaultMode), ("items", whenSome v.items), ("optional", whenSome v.optional),
    ("secretName", whenSome v.secretName)]

instance : Decode SecretVolume := .record "SecretVolumeSource" <|
  SecretVolume.mk <$> .optional "defaultMode" <*> .optional "items" <*> .optional "optional"
    <*> .optional "secretName"

/-- A volume filled from a ConfigMap. -/
structure ConfigMapVolume where
  defaultMode : Option Int32 := none
  items : Option (List KeyToPath) := none
  name : String := ""
  optional : Option Bool := none
  deriving DecidableEq, Inhabited

instance : Encode ConfigMapVolume where
  encode v := .record [
    ("defaultMode", whenSome v.defaultMode), ("items", whenSome v.items), ("name", always v.name),
    ("optional", whenSome v.optional)]

instance : Decode ConfigMapVolume := .record "ConfigMapVolumeSource" <|
  ConfigMapVolume.mk <$> .optional "defaultMode" <*> .optional "items" <*> .defaulted "name" ""
    <*> .optional "optional"

/-- A volume that tells about its pod. -/
structure PodFieldsVolume where
  defaultMode : Option Int32 := none
  items : Option (List PodFieldFile) := none
  deriving DecidableEq, Inhabited

instance : Encode PodFieldsVolume where
  encode v := .record [("defaultMode", whenSome v.defaultMode), ("items", whenSome v.items)]

instance : Decode PodFieldsVolume := .record "DownwardAPIVolumeSource" <|
  PodFieldsVolume.mk <$> .optional "defaultMode" <*> .optional "items"

/-- A volume on claimed storage. -/
structure ClaimVolume where
  claimName : String := ""
  readOnly : Option Bool := none
  deriving DecidableEq, Inhabited

instance : Encode ClaimVolume where
  encode v := .record [("claimName", always v.claimName), ("readOnly", whenSome v.readOnly)]

instance : Decode ClaimVolume := .record "PersistentVolumeClaimVolumeSource" <|
  ClaimVolume.mk <$> .defaulted "claimName" "" <*> .optional "readOnly"

/-- A claim that is made for one pod. -/
structure ClaimTemplate where
  metadata : Option ObjectMeta := none
  spec : PersistentVolumeClaimSpec := {}
  deriving DecidableEq, Inhabited

instance : Encode ClaimTemplate where
  encode v := .record [("metadata", whenSome v.metadata), ("spec", always v.spec)]

instance : Decode ClaimTemplate := .record "PersistentVolumeClaimTemplate" <|
  ClaimTemplate.mk <$> .optional "metadata" <*> .defaulted "spec" {}

/-- A volume on storage that is claimed for its pod. -/
structure EphemeralVolume where
  volumeClaimTemplate : Option ClaimTemplate := none
  deriving DecidableEq, Inhabited

instance : Encode EphemeralVolume where
  encode v := .record [("volumeClaimTemplate", whenSome v.volumeClaimTemplate)]

instance : Decode EphemeralVolume := .record "EphemeralVolumeSource" <|
  EphemeralVolume.mk <$> .optional "volumeClaimTemplate"

/-- A volume with the files of an image. -/
structure ImageVolume where
  pullPolicy : Option String := none
  reference : Option String := none
  deriving DecidableEq, Inhabited

instance : Encode ImageVolume where
  encode v := .record [("pullPolicy", whenSome v.pullPolicy), ("reference", whenSome v.reference)]

instance : Decode ImageVolume := .record "ImageVolumeSource" <|
  ImageVolume.mk <$> .optional "pullPolicy" <*> .optional "reference"

/-- A volume of a storage driver. -/
structure CsiVolume where
  driver : String := ""
  fsType : Option String := none
  nodePublishSecretRef : Option LocalObjectReference := none
  readOnly : Option Bool := none
  volumeAttributes : Option (Dict String) := none
  deriving DecidableEq, Inhabited

instance : Encode CsiVolume where
  encode v := .record [
    ("driver", always v.driver), ("fsType", whenSome v.fsType),
    ("nodePublishSecretRef", whenSome v.nodePublishSecretRef), ("readOnly", whenSome v.readOnly),
    ("volumeAttributes", whenSome v.volumeAttributes)]

instance : Decode CsiVolume := .record "CSIVolumeSource" <|
  CsiVolume.mk <$> .defaulted "driver" "" <*> .optional "fsType" <*> .optional "nodePublishSecretRef"
    <*> .optional "readOnly" <*> .optional "volumeAttributes"

/-! ## Several sources in one -/

/-- Certificates that are trusted. -/
structure TrustBundleProjection where
  labelSelector : Option LabelSelector := none
  name : Option String := none
  optional : Option Bool := none
  path : String := ""
  signerName : Option String := none
  deriving DecidableEq, Inhabited

instance : Encode TrustBundleProjection where
  encode v := .record [
    ("labelSelector", whenSome v.labelSelector), ("name", whenSome v.name), ("optional", whenSome v.optional),
    ("path", always v.path), ("signerName", whenSome v.signerName)]

instance : Decode TrustBundleProjection := .record "ClusterTrustBundleProjection" <|
  TrustBundleProjection.mk <$> .optional "labelSelector" <*> .optional "name" <*> .optional "optional"
    <*> .defaulted "path" "" <*> .optional "signerName"

/-- Keys of a ConfigMap. -/
structure ConfigMapProjection where
  items : Option (List KeyToPath) := none
  name : String := ""
  optional : Option Bool := none
  deriving DecidableEq, Inhabited

instance : Encode ConfigMapProjection where
  encode v := .record [
    ("items", whenSome v.items), ("name", always v.name), ("optional", whenSome v.optional)]

instance : Decode ConfigMapProjection := .record "ConfigMapProjection" <|
  ConfigMapProjection.mk <$> .optional "items" <*> .defaulted "name" "" <*> .optional "optional"

/-- Facts about the pod. -/
structure PodFieldsProjection where
  items : Option (List PodFieldFile) := none
  deriving DecidableEq, Inhabited

instance : Encode PodFieldsProjection := ⟨fun v => .record [("items", whenSome v.items)]⟩

instance : Decode PodFieldsProjection := .record "DownwardAPIProjection" <|
  PodFieldsProjection.mk <$> .optional "items"

/-- Keys of a secret. -/
structure SecretProjection where
  items : Option (List KeyToPath) := none
  name : String := ""
  optional : Option Bool := none
  deriving DecidableEq, Inhabited

instance : Encode SecretProjection where
  encode v := .record [
    ("items", whenSome v.items), ("name", always v.name), ("optional", whenSome v.optional)]

instance : Decode SecretProjection := .record "SecretProjection" <|
  SecretProjection.mk <$> .optional "items" <*> .defaulted "name" "" <*> .optional "optional"

/-- A token of the service account. -/
structure TokenProjection where
  audience : Option String := none
  expirationSeconds : Option Int64 := none
  path : String := ""
  deriving DecidableEq, Inhabited

instance : Encode TokenProjection where
  encode v := .record [
    ("audience", whenSome v.audience), ("expirationSeconds", whenSome v.expirationSeconds),
    ("path", always v.path)]

instance : Decode TokenProjection := .record "ServiceAccountTokenProjection" <|
  TokenProjection.mk <$> .optional "audience" <*> .optional "expirationSeconds" <*> .defaulted "path" ""

/-- One of the sources of a volume that has several. -/
structure VolumeProjection where
  clusterTrustBundle : Option TrustBundleProjection := none
  configMap : Option ConfigMapProjection := none
  downwardAPI : Option PodFieldsProjection := none
  secret : Option SecretProjection := none
  serviceAccountToken : Option TokenProjection := none
  deriving DecidableEq, Inhabited

instance : Encode VolumeProjection where
  encode v := .record [
    ("clusterTrustBundle", whenSome v.clusterTrustBundle), ("configMap", whenSome v.configMap),
    ("downwardAPI", whenSome v.downwardAPI), ("secret", whenSome v.secret),
    ("serviceAccountToken", whenSome v.serviceAccountToken)]

instance : Decode VolumeProjection := .record "VolumeProjection" <|
  VolumeProjection.mk <$> .optional "clusterTrustBundle" <*> .optional "configMap" <*> .optional "downwardAPI"
    <*> .optional "secret" <*> .optional "serviceAccountToken"

/-- A volume with several sources. -/
structure ProjectedVolume where
  defaultMode : Option Int32 := none
  sources : Option (List VolumeProjection) := none
  deriving DecidableEq, Inhabited

instance : Encode ProjectedVolume where
  encode v := .record [("defaultMode", whenSome v.defaultMode), ("sources", whenSome v.sources)]

instance : Decode ProjectedVolume := .record "ProjectedVolumeSource" <|
  ProjectedVolume.mk <$> .optional "defaultMode" <*> .optional "sources"

/-! ## Hosts, networks and providers -/

/-- A path on the node. -/
structure HostPathVolume where
  path : String := ""
  type : Option String := none
  deriving DecidableEq, Inhabited

instance : Encode HostPathVolume where
  encode v := .record [("path", always v.path), ("type", whenSome v.type)]

instance : Decode HostPathVolume := .record "HostPathVolumeSource" <|
  HostPathVolume.mk <$> .defaulted "path" "" <*> .optional "type"

/-- A path on an NFS server. -/
structure NfsVolume where
  path : String := ""
  readOnly : Option Bool := none
  server : String := ""
  deriving DecidableEq, Inhabited

instance : Encode NfsVolume where
  encode v := .record [
    ("path", always v.path), ("readOnly", whenSome v.readOnly), ("server", always v.server)]

instance : Decode NfsVolume := .record "NFSVolumeSource" <|
  NfsVolume.mk <$> .defaulted "path" "" <*> .optional "readOnly" <*> .defaulted "server" ""

/-- A disk on a Fibre Channel. -/
structure FcVolume where
  fsType : Option String := none
  lun : Option Int32 := none
  readOnly : Option Bool := none
  targetWWNs : Option (List String) := none
  wwids : Option (List String) := none
  deriving DecidableEq, Inhabited

instance : Encode FcVolume where
  encode v := .record [
    ("fsType", whenSome v.fsType), ("lun", whenSome v.lun), ("readOnly", whenSome v.readOnly),
    ("targetWWNs", whenSome v.targetWWNs), ("wwids", whenSome v.wwids)]

instance : Decode FcVolume := .record "FCVolumeSource" <|
  FcVolume.mk <$> .optional "fsType" <*> .optional "lun" <*> .optional "readOnly" <*> .optional "targetWWNs"
    <*> .optional "wwids"

/-- A disk behind iSCSI. -/
structure IscsiVolume where
  chapAuthDiscovery : Option Bool := none
  chapAuthSession : Option Bool := none
  fsType : Option String := none
  initiatorName : Option String := none
  iqn : String := ""
  iscsiInterface : Option String := none
  lun : Int32 := 0
  portals : Option (List String) := none
  readOnly : Option Bool := none
  secretRef : Option LocalObjectReference := none
  targetPortal : String := ""
  deriving DecidableEq, Inhabited

instance : Encode IscsiVolume where
  encode v := .record [
    ("chapAuthDiscovery", whenSome v.chapAuthDiscovery), ("chapAuthSession", whenSome v.chapAuthSession),
    ("fsType", whenSome v.fsType), ("initiatorName", whenSome v.initiatorName), ("iqn", always v.iqn),
    ("iscsiInterface", whenSome v.iscsiInterface), ("lun", always v.lun), ("portals", whenSome v.portals),
    ("readOnly", whenSome v.readOnly), ("secretRef", whenSome v.secretRef),
    ("targetPortal", always v.targetPortal)]

instance : Decode IscsiVolume := .record "ISCSIVolumeSource" <|
  IscsiVolume.mk <$> .optional "chapAuthDiscovery" <*> .optional "chapAuthSession" <*> .optional "fsType"
    <*> .optional "initiatorName" <*> .defaulted "iqn" "" <*> .optional "iscsiInterface"
    <*> .defaulted "lun" 0 <*> .optional "portals" <*> .optional "readOnly" <*> .optional "secretRef"
    <*> .defaulted "targetPortal" ""

/-- A path in a Ceph file system. -/
structure CephFsVolume where
  monitors : List String := []
  path : Option String := none
  readOnly : Option Bool := none
  secretFile : Option String := none
  secretRef : Option LocalObjectReference := none
  user : Option String := none
  deriving DecidableEq, Inhabited

instance : Encode CephFsVolume where
  encode v := .record [
    ("monitors", always v.monitors), ("path", whenSome v.path), ("readOnly", whenSome v.readOnly),
    ("secretFile", whenSome v.secretFile), ("secretRef", whenSome v.secretRef), ("user", whenSome v.user)]

instance : Decode CephFsVolume := .record "CephFSVolumeSource" <|
  CephFsVolume.mk <$> .defaulted "monitors" [] <*> .optional "path" <*> .optional "readOnly"
    <*> .optional "secretFile" <*> .optional "secretRef" <*> .optional "user"

/-- A block device of Ceph. -/
structure RbdVolume where
  fsType : Option String := none
  image : String := ""
  keyring : Option String := none
  monitors : List String := []
  pool : Option String := none
  readOnly : Option Bool := none
  secretRef : Option LocalObjectReference := none
  user : Option String := none
  deriving DecidableEq, Inhabited

instance : Encode RbdVolume where
  encode v := .record [
    ("fsType", whenSome v.fsType), ("image", always v.image), ("keyring", whenSome v.keyring),
    ("monitors", always v.monitors), ("pool", whenSome v.pool), ("readOnly", whenSome v.readOnly),
    ("secretRef", whenSome v.secretRef), ("user", whenSome v.user)]

instance : Decode RbdVolume := .record "RBDVolumeSource" <|
  RbdVolume.mk <$> .optional "fsType" <*> .defaulted "image" "" <*> .optional "keyring"
    <*> .defaulted "monitors" [] <*> .optional "pool" <*> .optional "readOnly" <*> .optional "secretRef"
    <*> .optional "user"

/-- A Glusterfs volume. -/
structure GlusterfsVolume where
  endpoints : String := ""
  path : String := ""
  readOnly : Option Bool := none
  deriving DecidableEq, Inhabited

instance : Encode GlusterfsVolume where
  encode v := .record [
    ("endpoints", always v.endpoints), ("path", always v.path), ("readOnly", whenSome v.readOnly)]

instance : Decode GlusterfsVolume := .record "GlusterfsVolumeSource" <|
  GlusterfsVolume.mk <$> .defaulted "endpoints" "" <*> .defaulted "path" "" <*> .optional "readOnly"

/-- A Quobyte volume. -/
structure QuobyteVolume where
  group : Option String := none
  readOnly : Option Bool := none
  registry : String := ""
  tenant : Option String := none
  user : Option String := none
  volume : String := ""
  deriving DecidableEq, Inhabited

instance : Encode QuobyteVolume where
  encode v := .record [
    ("group", whenSome v.group), ("readOnly", whenSome v.readOnly), ("registry", always v.registry),
    ("tenant", whenSome v.tenant), ("user", whenSome v.user), ("volume", always v.volume)]

instance : Decode QuobyteVolume := .record "QuobyteVolumeSource" <|
  QuobyteVolume.mk <$> .optional "group" <*> .optional "readOnly" <*> .defaulted "registry" ""
    <*> .optional "tenant" <*> .optional "user" <*> .defaulted "volume" ""

/-- A ScaleIO volume. -/
structure ScaleIoVolume where
  fsType : Option String := none
  gateway : String := ""
  protectionDomain : Option String := none
  readOnly : Option Bool := none
  secretRef : LocalObjectReference := {}
  sslEnabled : Option Bool := none
  storageMode : Option String := none
  storagePool : Option String := none
  system : String := ""
  volumeName : Option String := none
  deriving DecidableEq, Inhabited

instance : Encode ScaleIoVolume where
  encode v := .record [
    ("fsType", whenSome v.fsType), ("gateway", always v.gateway),
    ("protectionDomain", whenSome v.protectionDomain), ("readOnly", whenSome v.readOnly),
    ("secretRef", always v.secretRef), ("sslEnabled", whenSome v.sslEnabled),
    ("storageMode", whenSome v.storageMode), ("storagePool", whenSome v.storagePool),
    ("system", always v.system), ("volumeName", whenSome v.volumeName)]

instance : Decode ScaleIoVolume := .record "ScaleIOVolumeSource" <|
  ScaleIoVolume.mk <$> .optional "fsType" <*> .defaulted "gateway" "" <*> .optional "protectionDomain"
    <*> .optional "readOnly" <*> .defaulted "secretRef" {} <*> .optional "sslEnabled"
    <*> .optional "storageMode" <*> .optional "storagePool" <*> .defaulted "system" ""
    <*> .optional "volumeName"

/-- A StorageOS volume. -/
structure StorageOsVolume where
  fsType : Option String := none
  readOnly : Option Bool := none
  secretRef : Option LocalObjectReference := none
  volumeName : Option String := none
  volumeNamespace : Option String := none
  deriving DecidableEq, Inhabited

instance : Encode StorageOsVolume where
  encode v := .record [
    ("fsType", whenSome v.fsType), ("readOnly", whenSome v.readOnly), ("secretRef", whenSome v.secretRef),
    ("volumeName", whenSome v.volumeName), ("volumeNamespace", whenSome v.volumeNamespace)]

instance : Decode StorageOsVolume := .record "StorageOSVolumeSource" <|
  StorageOsVolume.mk <$> .optional "fsType" <*> .optional "readOnly" <*> .optional "secretRef"
    <*> .optional "volumeName" <*> .optional "volumeNamespace"

/-- A Portworx volume. -/
structure PortworxVolume where
  fsType : Option String := none
  readOnly : Option Bool := none
  volumeID : String := ""
  deriving DecidableEq, Inhabited

instance : Encode PortworxVolume where
  encode v := .record [
    ("fsType", whenSome v.fsType), ("readOnly", whenSome v.readOnly), ("volumeID", always v.volumeID)]

instance : Decode PortworxVolume := .record "PortworxVolumeSource" <|
  PortworxVolume.mk <$> .optional "fsType" <*> .optional "readOnly" <*> .defaulted "volumeID" ""

/-- A dataset of Flocker. -/
structure FlockerVolume where
  datasetName : Option String := none
  datasetUUID : Option String := none
  deriving DecidableEq, Inhabited

instance : Encode FlockerVolume where
  encode v := .record [("datasetName", whenSome v.datasetName), ("datasetUUID", whenSome v.datasetUUID)]

instance : Decode FlockerVolume := .record "FlockerVolumeSource" <|
  FlockerVolume.mk <$> .optional "datasetName" <*> .optional "datasetUUID"

/-- A volume of a driver on the node. -/
structure FlexVolume where
  driver : String := ""
  fsType : Option String := none
  options : Option (Dict String) := none
  readOnly : Option Bool := none
  secretRef : Option LocalObjectReference := none
  deriving DecidableEq, Inhabited

instance : Encode FlexVolume where
  encode v := .record [
    ("driver", always v.driver), ("fsType", whenSome v.fsType), ("options", whenSome v.options),
    ("readOnly", whenSome v.readOnly), ("secretRef", whenSome v.secretRef)]

instance : Decode FlexVolume := .record "FlexVolumeSource" <|
  FlexVolume.mk <$> .defaulted "driver" "" <*> .optional "fsType" <*> .optional "options"
    <*> .optional "readOnly" <*> .optional "secretRef"

/-- A revision of a Git repository. -/
structure GitRepoVolume where
  directory : Option String := none
  repository : String := ""
  revision : Option String := none
  deriving DecidableEq, Inhabited

instance : Encode GitRepoVolume where
  encode v := .record [
    ("directory", whenSome v.directory), ("repository", always v.repository),
    ("revision", whenSome v.revision)]

instance : Decode GitRepoVolume := .record "GitRepoVolumeSource" <|
  GitRepoVolume.mk <$> .optional "directory" <*> .defaulted "repository" "" <*> .optional "revision"

/-- A disk of AWS. -/
structure AwsDisk where
  fsType : Option String := none
  partition : Option Int32 := none
  readOnly : Option Bool := none
  volumeID : String := ""
  deriving DecidableEq, Inhabited

instance : Encode AwsDisk where
  encode v := .record [
    ("fsType", whenSome v.fsType), ("partition", whenSome v.partition), ("readOnly", whenSome v.readOnly),
    ("volumeID", always v.volumeID)]

instance : Decode AwsDisk := .record "AWSElasticBlockStoreVolumeSource" <|
  AwsDisk.mk <$> .optional "fsType" <*> .optional "partition" <*> .optional "readOnly"
    <*> .defaulted "volumeID" ""

/-- A disk of Azure. -/
structure AzureDisk where
  cachingMode : Option String := none
  diskName : String := ""
  diskURI : String := ""
  fsType : Option String := none
  kind : Option String := none
  readOnly : Option Bool := none
  deriving DecidableEq, Inhabited

instance : Encode AzureDisk where
  encode v := .record [
    ("cachingMode", whenSome v.cachingMode), ("diskName", always v.diskName), ("diskURI", always v.diskURI),
    ("fsType", whenSome v.fsType), ("kind", whenSome v.kind), ("readOnly", whenSome v.readOnly)]

instance : Decode AzureDisk := .record "AzureDiskVolumeSource" <|
  AzureDisk.mk <$> .optional "cachingMode" <*> .defaulted "diskName" "" <*> .defaulted "diskURI" ""
    <*> .optional "fsType" <*> .optional "kind" <*> .optional "readOnly"

/-- A share of Azure. -/
structure AzureFile where
  readOnly : Option Bool := none
  secretName : String := ""
  shareName : String := ""
  deriving DecidableEq, Inhabited

instance : Encode AzureFile where
  encode v := .record [
    ("readOnly", whenSome v.readOnly), ("secretName", always v.secretName), ("shareName", always v.shareName)]

instance : Decode AzureFile := .record "AzureFileVolumeSource" <|
  AzureFile.mk <$> .optional "readOnly" <*> .defaulted "secretName" "" <*> .defaulted "shareName" ""

/-- A disk of OpenStack. -/
structure CinderVolume where
  fsType : Option String := none
  readOnly : Option Bool := none
  secretRef : Option LocalObjectReference := none
  volumeID : String := ""
  deriving DecidableEq, Inhabited

instance : Encode CinderVolume where
  encode v := .record [
    ("fsType", whenSome v.fsType), ("readOnly", whenSome v.readOnly), ("secretRef", whenSome v.secretRef),
    ("volumeID", always v.volumeID)]

instance : Decode CinderVolume := .record "CinderVolumeSource" <|
  CinderVolume.mk <$> .optional "fsType" <*> .optional "readOnly" <*> .optional "secretRef"
    <*> .defaulted "volumeID" ""

/-- A disk of GCE. -/
structure GceDisk where
  fsType : Option String := none
  partition : Option Int32 := none
  pdName : String := ""
  readOnly : Option Bool := none
  deriving DecidableEq, Inhabited

instance : Encode GceDisk where
  encode v := .record [
    ("fsType", whenSome v.fsType), ("partition", whenSome v.partition), ("pdName", always v.pdName),
    ("readOnly", whenSome v.readOnly)]

instance : Decode GceDisk := .record "GCEPersistentDiskVolumeSource" <|
  GceDisk.mk <$> .optional "fsType" <*> .optional "partition" <*> .defaulted "pdName" ""
    <*> .optional "readOnly"

/-- A disk of Photon. -/
structure PhotonDisk where
  fsType : Option String := none
  pdID : String := ""
  deriving DecidableEq, Inhabited

instance : Encode PhotonDisk where
  encode v := .record [("fsType", whenSome v.fsType), ("pdID", always v.pdID)]

instance : Decode PhotonDisk := .record "PhotonPersistentDiskVolumeSource" <|
  PhotonDisk.mk <$> .optional "fsType" <*> .defaulted "pdID" ""

/-- A disk of vSphere. -/
structure VsphereDisk where
  fsType : Option String := none
  storagePolicyID : Option String := none
  storagePolicyName : Option String := none
  volumePath : String := ""
  deriving DecidableEq, Inhabited

instance : Encode VsphereDisk where
  encode v := .record [
    ("fsType", whenSome v.fsType), ("storagePolicyID", whenSome v.storagePolicyID),
    ("storagePolicyName", whenSome v.storagePolicyName), ("volumePath", always v.volumePath)]

instance : Decode VsphereDisk := .record "VsphereVirtualDiskVolumeSource" <|
  VsphereDisk.mk <$> .optional "fsType" <*> .optional "storagePolicyID" <*> .optional "storagePolicyName"
    <*> .defaulted "volumePath" ""

/-! ## Volumes -/

/-- A volume: its name, and its sources, of which a cluster admits one. -/
structure Volume where
  name : String := ""
  awsElasticBlockStore : Option AwsDisk := none
  azureDisk : Option AzureDisk := none
  azureFile : Option AzureFile := none
  cephfs : Option CephFsVolume := none
  cinder : Option CinderVolume := none
  configMap : Option ConfigMapVolume := none
  csi : Option CsiVolume := none
  downwardAPI : Option PodFieldsVolume := none
  emptyDir : Option EmptyDir := none
  ephemeral : Option EphemeralVolume := none
  fc : Option FcVolume := none
  flexVolume : Option FlexVolume := none
  flocker : Option FlockerVolume := none
  gcePersistentDisk : Option GceDisk := none
  gitRepo : Option GitRepoVolume := none
  glusterfs : Option GlusterfsVolume := none
  hostPath : Option HostPathVolume := none
  image : Option ImageVolume := none
  iscsi : Option IscsiVolume := none
  nfs : Option NfsVolume := none
  persistentVolumeClaim : Option ClaimVolume := none
  photonPersistentDisk : Option PhotonDisk := none
  portworxVolume : Option PortworxVolume := none
  projected : Option ProjectedVolume := none
  quobyte : Option QuobyteVolume := none
  rbd : Option RbdVolume := none
  scaleIO : Option ScaleIoVolume := none
  secret : Option SecretVolume := none
  storageos : Option StorageOsVolume := none
  vsphereVolume : Option VsphereDisk := none
  deriving DecidableEq, Inhabited

instance : Encode Volume where
  encode v := .record [
    ("awsElasticBlockStore", whenSome v.awsElasticBlockStore), ("azureDisk", whenSome v.azureDisk),
    ("azureFile", whenSome v.azureFile), ("cephfs", whenSome v.cephfs), ("cinder", whenSome v.cinder),
    ("configMap", whenSome v.configMap), ("csi", whenSome v.csi), ("downwardAPI", whenSome v.downwardAPI),
    ("emptyDir", whenSome v.emptyDir), ("ephemeral", whenSome v.ephemeral), ("fc", whenSome v.fc),
    ("flexVolume", whenSome v.flexVolume), ("flocker", whenSome v.flocker),
    ("gcePersistentDisk", whenSome v.gcePersistentDisk), ("gitRepo", whenSome v.gitRepo),
    ("glusterfs", whenSome v.glusterfs), ("hostPath", whenSome v.hostPath), ("image", whenSome v.image),
    ("iscsi", whenSome v.iscsi), ("name", always v.name), ("nfs", whenSome v.nfs),
    ("persistentVolumeClaim", whenSome v.persistentVolumeClaim),
    ("photonPersistentDisk", whenSome v.photonPersistentDisk), ("portworxVolume", whenSome v.portworxVolume),
    ("projected", whenSome v.projected), ("quobyte", whenSome v.quobyte), ("rbd", whenSome v.rbd),
    ("scaleIO", whenSome v.scaleIO), ("secret", whenSome v.secret), ("storageos", whenSome v.storageos),
    ("vsphereVolume", whenSome v.vsphereVolume)]

instance : Decode Volume := .record "Volume" <|
  Volume.mk <$> .defaulted "name" "" <*> .optional "awsElasticBlockStore" <*> .optional "azureDisk"
    <*> .optional "azureFile" <*> .optional "cephfs" <*> .optional "cinder" <*> .optional "configMap"
    <*> .optional "csi" <*> .optional "downwardAPI" <*> .optional "emptyDir" <*> .optional "ephemeral"
    <*> .optional "fc" <*> .optional "flexVolume" <*> .optional "flocker" <*> .optional "gcePersistentDisk"
    <*> .optional "gitRepo" <*> .optional "glusterfs" <*> .optional "hostPath" <*> .optional "image"
    <*> .optional "iscsi" <*> .optional "nfs" <*> .optional "persistentVolumeClaim"
    <*> .optional "photonPersistentDisk" <*> .optional "portworxVolume" <*> .optional "projected"
    <*> .optional "quobyte" <*> .optional "rbd" <*> .optional "scaleIO" <*> .optional "secret"
    <*> .optional "storageos" <*> .optional "vsphereVolume"

end HubSearch
