import RingKeeper.Kube.Schema.Storage

/-!
# The shapes of containers
-/

namespace RingKeeper.Kube.Schema

open Json (Shape)
open Json.Shape

/-! ### Environment -/

/-- A key of an object that is found by its name. -/
def keySelector : Shape := object
  [must ["key"] text, may ["name"] text, may ["optional"] flag]

def fieldSelector : Shape := object [must ["fieldPath"] text, may ["apiVersion"] text]

def resourceSelector : Shape := object
  [must ["resource"] text, may ["containerName", "divisor"] text]

def environmentVariable : Shape := object
  [must ["name"] text,
   may ["value"] text,
   may ["valueFrom"] (object
     [may ["configMapKeyRef", "secretKeyRef"] keySelector,
      may ["fieldRef"] fieldSelector,
      may ["resourceFieldRef"] resourceSelector])]

def environmentSource : Shape := object
  [may ["configMapRef", "secretRef"] (object [may ["name"] text, may ["optional"] flag]),
   may ["prefix"] text]

/-! ### Probes -/

def command : Shape := object [may ["command"] texts]

def httpGet : Shape := object
  [must ["port"] numberOrText,
   may ["host", "path", "scheme"] text,
   may ["httpHeaders"] (list (object [must ["name", "value"] text]))]

def tcpSocket : Shape := object [must ["port"] numberOrText, may ["host"] text]

def lifecycleHandler : Shape := object
  [may ["exec"] command, may ["httpGet"] httpGet, may ["tcpSocket"] tcpSocket]

def probe : Shape := object
  [may ["exec"] command,
   may ["grpc"] (object [must ["port"] int32, may ["service"] text]),
   may ["httpGet"] httpGet,
   may ["tcpSocket"] tcpSocket,
   may ["failureThreshold", "initialDelaySeconds", "periodSeconds", "successThreshold",
     "timeoutSeconds"] int32,
   may ["terminationGracePeriodSeconds"] int64]

/-! ### Security -/

def seLinuxOptions : Shape := object [may ["level", "role", "type", "user"] text]

def seccompProfile : Shape := object [must ["type"] text, may ["localhostProfile"] text]

def windowsOptions : Shape := object
  [may ["gmsaCredentialSpec", "gmsaCredentialSpecName", "runAsUserName"] text,
   may ["hostProcess"] flag]

/-- What containers and pods may both say about security. -/
def securityRest : List Group :=
  [may ["runAsGroup", "runAsUser"] int64,
   may ["runAsNonRoot"] flag,
   may ["seLinuxOptions"] seLinuxOptions,
   may ["seccompProfile"] seccompProfile,
   may ["windowsOptions"] windowsOptions]

def securityContext : Shape := object <|
  securityRest ++
  [may ["allowPrivilegeEscalation", "privileged", "readOnlyRootFilesystem"] flag,
   may ["capabilities"] (object [may ["add", "drop"] texts]),
   may ["procMount"] text]

/-! ### Containers -/

/-- The fields of containers, whether or not they are ephemeral. -/
def containerFields : List Group :=
  [must ["name"] text,
   may ["args", "command"] texts,
   may ["env"] (list environmentVariable),
   may ["envFrom"] (list environmentSource),
   may ["image", "imagePullPolicy", "restartPolicy", "terminationMessagePath",
     "terminationMessagePolicy", "workingDir"] text,
   may ["lifecycle"] (object [may ["postStart", "preStop"] lifecycleHandler]),
   may ["livenessProbe", "readinessProbe", "startupProbe"] probe,
   may ["ports"] (list (object
     [must ["containerPort"] int32, may ["hostPort"] int32,
      may ["hostIP", "name", "protocol"] text])),
   may ["resizePolicy"] (list (object [must ["resourceName", "restartPolicy"] text])),
   may ["resources"] resources,
   may ["securityContext"] securityContext,
   may ["stdin", "stdinOnce", "tty"] flag,
   may ["volumeDevices"] (list (object [must ["devicePath", "name"] text])),
   may ["volumeMounts"] (list (object
     [must ["mountPath", "name"] text, may ["mountPropagation", "subPath", "subPathExpr"] text,
      may ["readOnly"] flag]))]

def container : Shape := object containerFields

def ephemeralContainer : Shape := object (may ["targetContainerName"] text :: containerFields)

/-! ### States of containers -/

def containerState : Shape := object
  [may ["running"] (object [may ["startedAt"] timestamp]),
   may ["terminated"] (object
     [must ["exitCode"] int32, may ["signal"] int32, may ["containerID", "message", "reason"] text,
      may ["finishedAt", "startedAt"] timestamp]),
   may ["waiting"] (object [may ["message", "reason"] text])]

def containerStatus : Shape := object
  [must ["image", "imageID", "name"] text,
   must ["ready"] flag,
   must ["restartCount"] int32,
   may ["allocatedResources"] textTable,
   may ["containerID"] text,
   may ["lastState", "state"] containerState,
   may ["resources"] resources,
   may ["started"] flag]

end RingKeeper.Kube.Schema
