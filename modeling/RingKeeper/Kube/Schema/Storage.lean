import RingKeeper.Kube.Schema.Metadata

/-!
# The shapes of storage

The kinds of storage that a pod's volume or a persistent volume may be of, and claims on storage.
Most kinds are the same for both; where a kind needs a secret, a pod's volume finds it in the pod's
namespace, and a persistent volume names the namespace too.
-/

namespace RingKeeper.Kube.Schema

open Json (Shape)
open Json.Shape

/-! ### Kinds of storage -/

def awsElasticBlockStore : Shape := object
  [must ["volumeID"] text, may ["fsType"] text, may ["partition"] int32, may ["readOnly"] flag]

def azureDisk : Shape := object
  [must ["diskName", "diskURI"] text, may ["cachingMode", "fsType", "kind"] text,
   may ["readOnly"] flag]

def cephFs (secret : Shape) : Shape := object
  [must ["monitors"] texts, may ["path", "secretFile", "user"] text, may ["readOnly"] flag,
   may ["secretRef"] secret]

def cinder (secret : Shape) : Shape := object
  [must ["volumeID"] text, may ["fsType"] text, may ["readOnly"] flag, may ["secretRef"] secret]

def fibreChannel : Shape := object
  [may ["fsType"] text, may ["lun"] int32, may ["readOnly"] flag,
   may ["targetWWNs", "wwids"] texts]

def flexVolume (secret : Shape) : Shape := object
  [must ["driver"] text, may ["fsType"] text, may ["options"] textTable, may ["readOnly"] flag,
   may ["secretRef"] secret]

def flocker : Shape := object [may ["datasetName", "datasetUUID"] text]

def gcePersistentDisk : Shape := object
  [must ["pdName"] text, may ["fsType"] text, may ["partition"] int32, may ["readOnly"] flag]

def hostPath : Shape := object [must ["path"] text, may ["type"] text]

def iscsi (secret : Shape) : Shape := object
  [must ["iqn", "targetPortal"] text, must ["lun"] int32,
   may ["chapAuthDiscovery", "chapAuthSession", "readOnly"] flag,
   may ["fsType", "initiatorName", "iscsiInterface"] text, may ["portals"] texts,
   may ["secretRef"] secret]

def nfs : Shape := object [must ["path", "server"] text, may ["readOnly"] flag]

def photonPersistentDisk : Shape := object [must ["pdID"] text, may ["fsType"] text]

def portworxVolume : Shape := object
  [must ["volumeID"] text, may ["fsType"] text, may ["readOnly"] flag]

def quobyte : Shape := object
  [must ["registry", "volume"] text, may ["group", "tenant", "user"] text, may ["readOnly"] flag]

def rbd (secret : Shape) : Shape := object
  [must ["image"] text, must ["monitors"] texts, may ["fsType", "keyring", "pool", "user"] text,
   may ["readOnly"] flag, may ["secretRef"] secret]

def scaleIo (secret : Shape) : Shape := object
  [must ["gateway", "system"] text, must ["secretRef"] secret,
   may ["fsType", "protectionDomain", "storageMode", "storagePool", "volumeName"] text,
   may ["readOnly", "sslEnabled"] flag]

def storageOs (secret : Shape) : Shape := object
  [may ["fsType", "volumeName", "volumeNamespace"] text, may ["readOnly"] flag,
   may ["secretRef"] secret]

def vsphereVolume : Shape := object
  [must ["volumePath"] text, may ["fsType", "storagePolicyID", "storagePolicyName"] text]

/-- The kinds of storage that pods and persistent volumes share. -/
def storageKinds (secret : Shape) : List Group :=
  [may ["awsElasticBlockStore"] awsElasticBlockStore,
   may ["azureDisk"] azureDisk,
   may ["cephfs"] (cephFs secret),
   may ["cinder"] (cinder secret),
   may ["fc"] fibreChannel,
   may ["flexVolume"] (flexVolume secret),
   may ["flocker"] flocker,
   may ["gcePersistentDisk"] gcePersistentDisk,
   may ["hostPath"] hostPath,
   may ["iscsi"] (iscsi secret),
   may ["nfs"] nfs,
   may ["photonPersistentDisk"] photonPersistentDisk,
   may ["portworxVolume"] portworxVolume,
   may ["quobyte"] quobyte,
   may ["rbd"] (rbd secret),
   may ["scaleIO"] (scaleIo secret),
   may ["vsphereVolume"] vsphereVolume]

/-! ### Claims -/

/-- Amounts are texts. -/
def resources : Shape := object
  [may ["claims"] (list (object [must ["name"] text])),
   may ["limits", "requests"] textTable]

def claimSpec : Shape := object
  [may ["accessModes"] texts,
   may ["dataSource"] (object [must ["kind", "name"] text, may ["apiGroup"] text]),
   may ["dataSourceRef"] (object [must ["kind", "name"] text, may ["apiGroup", "namespace"] text]),
   may ["resources"] resources,
   may ["selector"] labelSelector,
   may ["storageClassName", "volumeMode", "volumeName"] text]

/-- A condition that an object is in, with the last times it was looked for and changed. -/
def condition (looked : String) : Shape := object
  [must ["status", "type"] text,
   may [looked, "lastTransitionTime"] timestamp,
   may ["message", "reason"] text]

def claimStatus : Shape := object
  [may ["accessModes"] texts,
   may ["allocatedResourceStatuses", "allocatedResources", "capacity"] textTable,
   may ["conditions"] (list (condition "lastProbeTime")),
   may ["phase"] text]

/-! ### Persistent volumes -/

/-- Conditions on nodes of which each term has to hold as a whole. -/
def nodeTerm : Shape := object [may ["matchExpressions", "matchFields"] (list requirement)]

def nodeSelector : Shape := object [must ["nodeSelectorTerms"] (list nodeTerm)]

/-- The fields of a persistent volume other than its claim and its node affinity. -/
def volumeSpecRest : List Group :=
  storageKinds secretReference ++
  [may ["accessModes", "mountOptions"] texts,
   may ["azureFile"] (object
     [must ["secretName", "shareName"] text, may ["readOnly"] flag, may ["secretNamespace"] text]),
   may ["capacity"] textTable,
   may ["csi"] (object
     [must ["driver", "volumeHandle"] text, may ["fsType"] text, may ["readOnly"] flag,
      may ["controllerExpandSecretRef", "controllerPublishSecretRef", "nodeExpandSecretRef",
        "nodePublishSecretRef", "nodeStageSecretRef"] secretReference,
      may ["volumeAttributes"] textTable]),
   may ["glusterfs"] (object
     [must ["endpoints", "path"] text, may ["endpointsNamespace"] text, may ["readOnly"] flag]),
   may ["local"] (object [must ["path"] text, may ["fsType"] text]),
   may ["persistentVolumeReclaimPolicy", "storageClassName", "volumeMode"] text,
   may ["storageos"] (storageOs objectReference)]

def volumeStatus : Shape := object
  [may ["lastPhaseTransitionTime"] timestamp,
   may ["message", "phase", "reason"] text]

end RingKeeper.Kube.Schema
