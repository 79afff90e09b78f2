import RingKeeper.Kube.Schema.Container

/-!
# The shapes of pods and nodes
-/

namespace RingKeeper.Kube.Schema

open Json (Shape)
open Json.Shape

/-! ### Volumes of a pod -/

/-- Keys of an object that become files. -/
def keyPaths : Group :=
  may ["items"] (list (object [must ["key", "path"] text, may ["mode"] int32]))

/-- Fields of the pod that become files. -/
def podFieldPaths : Group :=
  may ["items"] (list (object
    [must ["path"] text, may ["fieldRef"] fieldSelector, may ["mode"] int32,
     may ["resourceFieldRef"] resourceSelector]))

/-- A part of a volume that is put together. -/
def projection : Shape := object
  [may ["configMap", "secret"] (object [keyPaths, may ["name"] text, may ["optional"] flag]),
   may ["downwardAPI"] (object [podFieldPaths]),
   may ["serviceAccountToken"] (object
     [must ["path"] text, may ["audience"] text, may ["expirationSeconds"] int64])]

def podVolume : Shape := object <|
  storageKinds localReference ++
  [must ["name"] text,
   may ["azureFile"] (object [must ["secretName", "shareName"] text, may ["readOnly"] flag]),
   may ["configMap"] (object
     [keyPaths, may ["defaultMode"] int32, may ["name"] text, may ["optional"] flag]),
   may ["csi"] (object
     [must ["driver"] text, may ["fsType"] text, may ["nodePublishSecretRef"] localReference,
      may ["readOnly"] flag, may ["volumeAttributes"] textTable]),
   may ["downwardAPI"] (object [podFieldPaths, may ["defaultMode"] int32]),
   may ["emptyDir"] (object [may ["medium", "sizeLimit"] text]),
   may ["ephemeral"] (object
     [may ["volumeClaimTemplate"] (object [may ["metadata"] metadata, must ["spec"] claimSpec])]),
   may ["gitRepo"] (object [must ["repository"] text, may ["directory", "revision"] text]),
   may ["glusterfs"] (object [must ["endpoints", "path"] text, may ["readOnly"] flag]),
   may ["persistentVolumeClaim"] (object [must ["claimName"] text, may ["readOnly"] flag]),
   may ["projected"] (object [may ["defaultMode"] int32, may ["sources"] (list projection)]),
   may ["secret"] (object
     [keyPaths, may ["defaultMode"] int32, may ["optional"] flag, may ["secretName"] text]),
   may ["storageos"] (storageOs localReference)]

/-! ### Scheduling -/

def preferred (term : Group) : Group :=
  may ["preferredDuringSchedulingIgnoredDuringExecution"] (list (object
    [term, must ["weight"] int32]))

def required (shape : Shape) : Group :=
  may ["requiredDuringSchedulingIgnoredDuringExecution"] shape

def podAffinityTerm : Shape := object
  [must ["topologyKey"] text,
   may ["labelSelector", "namespaceSelector"] labelSelector,
   may ["namespaces"] texts]

def podAffinity : Shape := object
  [preferred (must ["podAffinityTerm"] podAffinityTerm), required (list podAffinityTerm)]

def affinity : Shape := object
  [may ["nodeAffinity"] (object [preferred (must ["preference"] nodeTerm), required nodeSelector]),
   may ["podAffinity", "podAntiAffinity"] podAffinity]

def toleration : Shape := object
  [may ["effect", "key", "operator", "value"] text, may ["tolerationSeconds"] int64]

def spreadConstraint : Shape := object
  [must ["maxSkew"] int32, must ["topologyKey", "whenUnsatisfiable"] text,
   may ["labelSelector"] labelSelector, may ["matchLabelKeys"] texts, may ["minDomains"] int32,
   may ["nodeAffinityPolicy", "nodeTaintsPolicy"] text]

/-! ### Pods -/

def podSecurityContext : Shape := object <|
  securityRest ++
  [may ["fsGroup"] int64,
   may ["fsGroupChangePolicy"] text,
   may ["supplementalGroups"] (list int64),
   may ["sysctls"] (list (object [must ["name", "value"] text]))]

def dnsConfig : Shape := object
  [may ["nameservers", "searches"] texts,
   may ["options"] (list (object [may ["name", "value"] text]))]

def podSpec : Shape := object
  [must ["containers"] (list container),
   may ["activeDeadlineSeconds", "terminationGracePeriodSeconds"] int64,
   may ["affinity"] affinity,
   may ["automountServiceAccountToken", "enableServiceLinks", "hostIPC", "hostNetwork", "hostPID",
     "hostUsers", "setHostnameAsFQDN", "shareProcessNamespace"] flag,
   may ["dnsConfig"] dnsConfig,
   may ["dnsPolicy", "hostname", "nodeName", "preemptionPolicy", "priorityClassName",
     "restartPolicy", "runtimeClassName", "schedulerName", "serviceAccount", "serviceAccountName",
     "subdomain"] text,
   may ["ephemeralContainers"] (list ephemeralContainer),
   may ["hostAliases"] (list (object [may ["hostnames"] texts, may ["ip"] text])),
   may ["imagePullSecrets"] (list localReference),
   may ["initContainers"] (list container),
   may ["nodeSelector", "overhead"] textTable,
   may ["os"] (object [must ["name"] text]),
   may ["priority"] int32,
   may ["readinessGates"] (list (object [must ["conditionType"] text])),
   may ["resourceClaims"] (list (object
     [must ["name"] text,
      may ["source"] (object [may ["resourceClaimName", "resourceClaimTemplateName"] text])])),
   may ["schedulingGates"] (list (object [must ["name"] text])),
   may ["securityContext"] podSecurityContext,
   may ["tolerations"] (list toleration),
   may ["topologySpreadConstraints"] (list spreadConstraint),
   may ["volumes"] (list podVolume)]

def podStatus : Shape := object
  [may ["conditions"] (list (condition "lastProbeTime")),
   may ["containerStatuses", "ephemeralContainerStatuses", "initContainerStatuses"]
     (list containerStatus),
   may ["hostIP", "message", "nominatedNodeName", "phase", "podIP", "qosClass", "reason",
     "resize"] text,
   may ["hostIPs", "podIPs"] (list (object [may ["ip"] text])),
   may ["resourceClaimStatuses"] (list (object
     [must ["name"] text, may ["resourceClaimName"] text])),
   may ["startTime"] timestamp]

/-! ### Nodes -/

def hostConfigSource : Shape := object
  [may ["configMap"] (object
    [must ["kubeletConfigKey", "name", "namespace"] text, may ["resourceVersion", "uid"] text])]

def hostSpec : Shape := object
  [may ["configSource"] hostConfigSource,
   may ["externalID", "podCIDR", "providerID"] text,
   may ["podCIDRs"] texts,
   may ["taints"] (list (object
     [must ["effect", "key"] text, may ["timeAdded"] timestamp, may ["value"] text])),
   may ["unschedulable"] flag]

def hostStatus : Shape := object
  [may ["addresses"] (list (object [must ["address", "type"] text])),
   may ["allocatable", "capacity"] textTable,
   may ["conditions"] (list (condition "lastHeartbeatTime")),
   may ["config"] (object
     [may ["active", "assigned", "lastKnownGood"] hostConfigSource, may ["error"] text]),
   may ["daemonEndpoints"] (object [may ["kubeletEndpoint"] (object [must ["Port"] int32])]),
   may ["images"] (list (object [may ["names"] texts, may ["sizeBytes"] int64])),
   may ["nodeInfo"] (object
     [must ["architecture", "bootID", "containerRuntimeVersion", "kernelVersion",
        "kubeProxyVersion", "kubeletVersion", "machineID", "operatingSystem", "osImage",
        "systemUUID"] text]),
   may ["phase"] text,
   may ["volumesAttached"] (list (object [must ["devicePath", "name"] text])),
   may ["volumesInUse"] texts]

end RingKeeper.Kube.Schema
