import RingKeeper.Json.Shape

/-!
# The shape of metadata

What every object of the cluster may say about itself besides what it is about, and the ways in
which objects refer to each other and select others.
-/

namespace RingKeeper.Kube.Schema

open Json (Shape)
open Json.Shape

/-- A reference by name, within the namespace. -/
def localReference : Shape := object [may ["name"] text]

/-- A reference by name and namespace. -/
def secretReference : Shape := object [may ["name", "namespace"] text]

/-- A reference to any object. -/
def objectReference : Shape := object
  [may ["apiVersion", "fieldPath", "kind", "name", "namespace", "resourceVersion", "uid"] text]

def ownerReference : Shape := object
  [must ["apiVersion", "kind", "name", "uid"] text,
   may ["blockOwnerDeletion", "controller"] flag]

/-- Who owns which fields of an object. -/
def managedFields : Shape := object
  [may ["apiVersion", "fieldsType", "manager", "operation", "subresource"] text,
   may ["fieldsV1"] any,
   may ["time"] timestamp]

/-- A condition on labels: a key, an operator, and values. -/
def requirement : Shape := object
  [must ["key", "operator"] text,
   may ["values"] texts]

def labelSelector : Shape := object
  [may ["matchExpressions"] (list requirement),
   may ["matchLabels"] textTable]

/-- The fields of metadata by which an object is found and kept apart from others. -/
def metadataIdentity : List Group :=
  [may ["generateName", "name", "namespace", "resourceVersion", "uid"] text,
   may ["annotations", "labels"] textTable,
   may ["finalizers"] texts]

/-- The other fields of metadata. -/
def metadataRest : List Group :=
  [may ["selfLink"] text,
   may ["creationTimestamp", "deletionTimestamp"] timestamp,
   may ["deletionGracePeriodSeconds", "generation"] int64,
   may ["managedFields"] (list managedFields),
   may ["ownerReferences"] (list ownerReference)]

def metadata : Shape := object (metadataIdentity ++ metadataRest)

end RingKeeper.Kube.Schema
