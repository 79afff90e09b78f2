import RingKeeper.Kube.Client
import RingKeeper.Registry.Basic

/-!
# The registry in the cluster

The cluster's API keeps the registry's configmap. Its codes for an object that is not there and for
a stale version become the two faults that the registry knows; any other refusal is a fault of the
cluster.
-/

namespace RingKeeper.Registry

open Kube (Refusal)

def configMapPath (inNamespace name : String) : String :=
  Kube.namespacedPath inNamespace "configmaps" name

/-- The fault of a refused lookup. -/
def lookupFault (name : String) : Refusal → Fault
  | .refused 404 _ _ => .ofKind (.registryNotFound name)
  | r => .ofKind (.cluster r.text)

/-- The fault of a refused replacement. -/
def replacementFault (name : String) : Refusal → Fault
  | .refused 404 _ _ => .ofKind (.registryNotFound name)
  | .refused 409 _ _ => .ofKind (.conflict name)
  | r => .ofKind (.cluster r.text)

/-- Answers a call to the store by a call to the API. -/
def remoteAnswer (inNamespace : String) : (q : Question) → Kube.Procedure (Answer q)
  | .get name => do
    match ← Kube.get ConfigMap.ofJson (configMapPath inNamespace name) with
    | .ok c => return .ok c
    | .error r => return .error (lookupFault name r)
  | .replace c => do
    match ← Kube.put ConfigMap.ofJson (configMapPath inNamespace c.name) c.toJson with
    | .ok c => return .ok c
    | .error r => return .error (replacementFault c.name r)

/-- A procedure of the registry over the API of the cluster. -/
def remote {α : Type} (inNamespace : String) (p : Procedure α) : Kube.Procedure α :=
  p.perform (remoteAnswer inNamespace)

end RingKeeper.Registry
