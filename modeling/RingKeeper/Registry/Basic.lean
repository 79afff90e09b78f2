import RingKeeper.Fault
import RingKeeper.Kube.ConfigMap
import RingKeeper.Plan

/-!
# The topology registry

The registry is a configmap that maps pods to their last known address. A lock in one of its
annotations guards it. The lock has no lease: whoever holds it keeps it until it is released, and
the holder may take it again. Every write carries the version that was read, so of two pods that
race for the free lock one is refused.

The procedures ask a store for one read or one replacement at a time, so that a rival may come
between any two of their steps.
-/

namespace RingKeeper

namespace Registry

/-- A call to the store that keeps the registry. -/
inductive Question where
  | get (name : String)
  /-- Replaces the stored configmap of the same name, if its version is still the given one. -/
  | replace (configMap : ConfigMap)
deriving DecidableEq, Repr

/-- Both calls answer with the configmap as it is stored then. -/
abbrev Answer (_ : Question) : Type := Attempt ConfigMap

abbrev Procedure (α : Type) : Type := Plan Question Answer α

/-- Holds the name of the pod that has the lock; the lock is free when it is empty or absent. -/
def lockKey : String := "cassandra.kudo.dev/annotationLock"

/-- The data key under which the last pod that wrote to the registry is recorded. -/
def writerKey : String := "last-updated-by"

end Registry

namespace ConfigMap

/-- The pod that has the lock; empty when the lock is free. -/
def lockedBy (c : ConfigMap) : String := c.annotationAt Registry.lockKey

def lockFor (c : ConfigMap) (holder : String) : ConfigMap :=
  c.annotate Registry.lockKey holder

/-- Whether a pod other than this one has the lock. -/
def isLockedAgainst (c : ConfigMap) (holder : String) : Bool :=
  !c.lockedBy.isEmpty && decide (c.lockedBy ≠ holder)

/-- Records an address and who recorded it. -/
def recordAddress (c : ConfigMap) (pod address : String) : ConfigMap :=
  (c.setData pod address).setData Registry.writerKey pod

@[simp] theorem lockedBy_lockFor (c : ConfigMap) (holder : String) :
    (c.lockFor holder).lockedBy = holder := by
  simp [lockedBy, lockFor]

@[simp] theorem lockedBy_recordAddress (c : ConfigMap) (pod address : String) :
    (c.recordAddress pod address).lockedBy = c.lockedBy := by
  simp [lockedBy, recordAddress]

end ConfigMap

/-- The registry that is kept in the configmap of this name. -/
structure Registry where
  name : String
deriving DecidableEq, Repr

/-- A lock that was taken, to be released by its holder. -/
structure Registry.Guard where
  registry : Registry
  holder : String
deriving DecidableEq, Repr

namespace Registry

def get (r : Registry) : Procedure (Attempt ConfigMap) := .request (.get r.name)

/-- The address recorded for the pod, unless it is empty. -/
def addressOf (r : Registry) (pod : String) : Procedure (Attempt (Option String)) := do
  match ← r.get with
  | .error f => return .error f
  | .ok c => return .ok ((c.dataAt? pod).filter fun address => !address.isEmpty)

/--
Takes the lock if it is free or already the holder's. When another write came in between, the
registry is read again to name the pod that has the lock now.
-/
def acquire (r : Registry) (holder : String) : Procedure (Attempt Guard) := do
  match ← r.get with
  | .error f => return .error f
  | .ok c =>
    if c.isLockedAgainst holder then
      return .error (.ofKind (.lockHeld r.name c.lockedBy))
    else
      match ← Plan.request (.replace (c.lockFor holder)) with
      | .ok _ => return .ok ⟨r, holder⟩
      | .error f =>
        match f.kind with
        | .conflict _ =>
          match ← r.get with
          | .error f => return .error f
          | .ok c =>
            if c.isLockedAgainst holder then
              return .error (.ofKind (.lockHeld r.name c.lockedBy))
            else return .error (.ofKind (.conflict r.name))
        | _ => return .error f

/-- Frees the lock if the holder has it. Answers whether the holder is without the lock now. -/
def release (r : Registry) (holder : String) : Procedure Bool := do
  match ← r.get with
  | .error f =>
    match f.kind with
    | .registryNotFound _ => return true
    | _ => return false
  | .ok c =>
    if c.lockedBy = holder then
      match ← Plan.request (.replace (c.lockFor "")) with
      | .ok _ => return true
      | .error _ => return false
    else return true

def Guard.release (g : Guard) : Procedure Bool := g.registry.release g.holder

/-- Records the address of a pod. The pod has to hold the lock. -/
def putAddress (r : Registry) (pod address : String) : Procedure (Attempt Unit) := do
  match ← r.get with
  | .error f => return .error f
  | .ok c =>
    match ← Plan.request (.replace (c.recordAddress pod address)) with
    | .error f => return .error f
    | .ok _ => return .ok ()

/-- Records the address of a pod under the lock, which is released whether or not that succeeds. -/
def commit (r : Registry) (pod address : String) : Procedure (Attempt Unit) := do
  match ← r.acquire pod with
  | .error f => return .error f
  | .ok guard =>
    let written ← r.putAddress pod address
    let _ ← guard.release
    return written

end Registry

end RingKeeper
