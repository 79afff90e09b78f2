import RingKeeper.Kube.Client
import RingKeeper.Recovery.StartOver

/-!
# The recovery in the cluster

The recovery's calls over the cluster's API. An object is absent when the API gives that as the
reason, and a deletion of something that is not there has been made already.
-/

namespace RingKeeper.Recovery

open Kube (Refusal)

def podPath (inNamespace name : String) : String := Kube.namespacedPath inNamespace "pods" name

def claimPath (inNamespace name : String) : String :=
  Kube.namespacedPath inNamespace "persistentvolumeclaims" name

def volumePath (name : String) : String := Kube.clusterPath "persistentvolumes" name

def hostPath (name : String) : String := Kube.clusterPath "nodes" name

/-- The outcome of a call, its refusal below the text of what was attempted. -/
def attempted {α : Type} (what : String) : Except Refusal α → Attempt α
  | .ok a => .ok a
  | .error r => .error (.causedBy (.message s!"failed to {what}") r.text)

/-- The outcome of a deletion. -/
def deleted (what : String) : Except Refusal Unit → Attempt Unit
  | .error (.refused 404 _ _) => .ok ()
  | r => attempted what r

/-- Answers a call of the recovery by a call to the API. -/
def remoteAnswer : (q : Question) → Kube.Procedure (Answer q)
  | .getPod inNamespace name =>
    return attempted s!"get pod {inNamespace}/{name}"
      (← Kube.get? Pod.ofJson (podPath inNamespace name))
  | .getClaim inNamespace name =>
    return attempted s!"get PVC {inNamespace}/{name}"
      (← Kube.get? Claim.ofJson (claimPath inNamespace name))
  | .getVolume name =>
    return attempted s!"get PV {name}" (← Kube.get? Volume.ofJson (volumePath name))
  | .hostExists name =>
    return (attempted s!"get node {name}" (← Kube.get? Host.ofJson (hostPath name))).map
      Option.isSome
  | .replaceVolume v =>
    return (attempted s!"update PV {v.name}"
      (← Kube.put Volume.ofJson (volumePath v.name) v.toJson)).map fun _ => ()
  | .deleteClaim inNamespace name =>
    return deleted s!"delete PVC {inNamespace}/{name}"
      (← Kube.delete Claim.ofJson (claimPath inNamespace name))
  | .deletePod inNamespace name =>
    return deleted s!"delete pod {inNamespace}/{name} for rescheduling"
      (← Kube.delete Pod.ofJson (podPath inNamespace name))

/-- A procedure of the recovery over the API of the cluster. -/
def remote {α : Type} (p : Procedure α) : Kube.Procedure α := p.perform remoteAnswer

end RingKeeper.Recovery
