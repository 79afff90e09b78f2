import RingKeeper.Recovery.Basic

/-!
# Diagnosis of a pod

The verdict on a pod names the first defect found. Only a pod that the scheduler gave up on is
looked into, claim by claim in the order of its volumes: the claim, the volume behind it, and the
node that the volume is pinned to. Nothing is looked up after the defect that decides.
-/

namespace RingKeeper.Recovery

/-- The defect of a bound claim's volume, if there is one. -/
def volumeDefect? (volume : String) : Procedure (Attempt (Option Verdict)) := do
  match ← ask (.getVolume volume) with
  | .error f => return .error f
  | .ok none => return .ok (some (.volumeMissing volume))
  | .ok (some v) =>
    match v.requiredHost? with
    | none => return .ok none
    | some host =>
      match ← ask (.hostExists host) with
      | .error f => return .error f
      | .ok true => return .ok none
      | .ok false => return .ok (some (.hostGone host))

/-- The defect of a claim, if there is one. A claim that is still pending has none. -/
def claimDefect? (inNamespace claim : String) : Procedure (Attempt (Option Verdict)) := do
  match ← ask (.getClaim inNamespace claim) with
  | .error f => return .error f
  | .ok none => return .ok (some (.claimMissing claim))
  | .ok (some c) =>
    match c.phase.getD "" with
    | "Bound" =>
      match c.volume? with
      | some volume => volumeDefect? volume
      | none => return .ok none
    | "Pending" => return .ok none
    | _ => return .ok (some (.claimLost claim))

/-- The first defect among the claims. -/
def firstDefect (inNamespace : String) : List String → Procedure (Attempt Verdict)
  | [] => return .ok .healthy
  | claim :: claims => do
    match ← claimDefect? inNamespace claim with
    | .error f => return .error f
    | .ok (some verdict) => return .ok verdict
    | .ok none => firstDefect inNamespace claims

/-- Whether the pod is marked for eviction by this label. -/
def isEvicted (pod : Pod) (evictionLabel : Option String) : Bool :=
  match evictionLabel.filter fun label => !label.isEmpty with
  | some label => pod.isLabelled label
  | none => false

/-- The verdict on a pod. -/
def diagnose (pod : Pod) (evictionLabel : Option String) : Procedure (Attempt Verdict) :=
  if isEvicted pod evictionLabel then return .ok .evicted
  else if pod.isUnschedulable then firstDefect pod.metadata.namespaceOrEmpty pod.mountedClaims
  else return .ok .healthy

end RingKeeper.Recovery
