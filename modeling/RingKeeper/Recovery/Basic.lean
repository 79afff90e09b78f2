import RingKeeper.Fault
import RingKeeper.Kube.Pod
import RingKeeper.Kube.Volume
import RingKeeper.Plan

/-!
# Recovery of pods

A pod that cannot be scheduled because its storage is lost will never run again by itself. It is
recovered by giving it a clean start: its volumes are detached, and its claims and the pod itself are
deleted, so that they are made anew elsewhere.

The procedures ask the cluster for one lookup or one change at a time. A lookup answers with nothing
for an object that does not exist, and deleting an object that does not exist succeeds.
-/

namespace RingKeeper

namespace Recovery

/-- A call to the cluster. -/
inductive Question where
  | getPod (inNamespace name : String)
  | getClaim (inNamespace name : String)
  | getVolume (name : String)
  | hostExists (name : String)
  /-- Replaces the volume of the same name, if its version is still the given one. -/
  | replaceVolume (volume : Volume)
  | deleteClaim (inNamespace name : String)
  | deletePod (inNamespace name : String)
deriving DecidableEq, Repr

@[reducible] def Answer : Question → Type
  | .getPod .. => Attempt (Option Pod)
  | .getClaim .. => Attempt (Option Claim)
  | .getVolume _ => Attempt (Option Volume)
  | .hostExists _ => Attempt Bool
  | .replaceVolume _ => Attempt Unit
  | .deleteClaim .. => Attempt Unit
  | .deletePod .. => Attempt Unit

/-- The answer that the call failed. -/
def failed (f : Fault) : (q : Question) → Answer q
  | .getPod .. => .error f
  | .getClaim .. => .error f
  | .getVolume _ => .error f
  | .hostExists _ => .error f
  | .replaceVolume _ => .error f
  | .deleteClaim .. => .error f
  | .deletePod .. => .error f

/-- Whether the call may change the cluster. -/
def Question.changes : Question → Bool
  | .replaceVolume _ | .deleteClaim .. | .deletePod .. => true
  | _ => false

abbrev Procedure (α : Type) : Type := Plan Question Answer α

def ask (q : Question) : Procedure (Answer q) := Plan.request q

end Recovery

/-- What is wrong with a pod, if anything. -/
inductive Verdict where
  | healthy
  /-- The pod has the eviction label. -/
  | evicted
  /-- A claim that the pod mounts does not exist. -/
  | claimMissing (claim : String)
  /-- A claim that the pod mounts is neither bound nor pending. -/
  | claimLost (claim : String)
  /-- The volume of a bound claim does not exist. -/
  | volumeMissing (volume : String)
  /-- The node that a volume is pinned to does not exist. -/
  | hostGone (host : String)
deriving DecidableEq, Repr

namespace Verdict

def needsRecovery (v : Verdict) : Bool := decide (v ≠ healthy)

/-- The object that the verdict is about. -/
def subject? : Verdict → Option String
  | healthy => none
  | evicted => none
  | claimMissing claim => some claim
  | claimLost claim => some claim
  | volumeMissing volume => some volume
  | hostGone host => some host

def text : Verdict → String
  | healthy => "healthy"
  | evicted => "eviction label set"
  | claimMissing claim => s!"PVC {claim} is missing"
  | claimLost claim => s!"PVC {claim} is neither bound nor pending"
  | volumeMissing volume => s!"PV {volume} is missing"
  | hostGone host => s!"node {host} is gone"

end Verdict

namespace Pod

/-- The names of the claims that the pod mounts, in the order of its volumes. -/
def mountedClaims (p : Pod) : List String :=
  p.volumes.filterMap fun v =>
    match v with
    | .claim name => some name
    | .other => none

def isLabelled (p : Pod) (label : String) : Bool :=
  decide ((p.metadata.labels.bind (·.get? label)) = some "true")

/-- Whether the scheduler gave up on the pod. -/
def isUnschedulable (p : Pod) : Bool :=
  p.conditions.any fun c =>
    decide (c.type = "PodScheduled") && decide (c.status = "False")
      && decide (c.reason = some "Unschedulable")

end Pod

end RingKeeper
