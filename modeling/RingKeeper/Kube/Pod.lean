import RingKeeper.Kube.Metadata
import RingKeeper.Kube.Schema.Pod

/-!
# Pods, claims and nodes

A pod mounts volumes, some of them through claims; a claim is bound to a volume; a volume may be
pinned to a node. Pods, claims and nodes are only read and deleted.
-/

namespace RingKeeper

/-- A volume of a pod: through the claim of this name, or of another sort. -/
inductive PodVolume where
  | claim (name : String)
  | other
deriving DecidableEq, Repr

structure PodCondition where
  type : String
  status : String
  reason : Option String
deriving DecidableEq, Repr

structure Pod where
  metadata : Metadata
  volumes : List PodVolume := []
  conditions : List PodCondition := []
deriving DecidableEq, Repr

/-- A claim of a pod on storage. -/
structure Claim where
  metadata : Metadata
  /-- The volume that the claim names. -/
  volumeName : Option String := none
  phase : Option String := none
deriving DecidableEq, Repr

/-- A machine of the cluster. -/
structure Host where
  metadata : Metadata
deriving DecidableEq, Repr

open Json

/-- A volume in regular form. -/
def PodVolume.ofRegular (j : Json) : PodVolume :=
  match j.get? "persistentVolumeClaim" with
  | some source => .claim ((source.text? "claimName").getD "")
  | none => .other

/-- A condition in regular form. -/
def PodCondition.ofRegular (j : Json) : PodCondition where
  type := (j.text? "type").getD ""
  status := (j.text? "status").getD ""
  reason := j.text? "reason"

/-- The items of a list in a part of an object, if there are any. -/
def itemsIn (part : Option Json) (key : String) : List Json :=
  ((part.bind (·.get? key)).map (·.items)).getD []

namespace Pod

def kind : String := "Pod"

def ofJson (j : Json) : Option Pod := do
  let fs ← readObject kind j
  let spec ← fs.part "spec" Kube.Schema.podSpec
  let status ← fs.part "status" Kube.Schema.podStatus
  some
    { metadata := ← fs.metadata
      volumes := (itemsIn spec "volumes").map PodVolume.ofRegular
      conditions := (itemsIn status "conditions").map PodCondition.ofRegular }

end Pod

namespace Claim

def kind : String := "PersistentVolumeClaim"

def ofJson (j : Json) : Option Claim := do
  let fs ← readObject kind j
  let spec ← fs.part "spec" Kube.Schema.claimSpec
  let status ← fs.part "status" Kube.Schema.claimStatus
  some
    { metadata := ← fs.metadata
      volumeName := spec.bind (·.text? "volumeName")
      phase := status.bind (·.text? "phase") }

/-- The volume that the claim names, unless the name is empty. -/
def volume? (c : Claim) : Option String := c.volumeName.filter fun v => !v.isEmpty

end Claim

namespace Host

def kind : String := "Node"

def ofJson (j : Json) : Option Host := do
  let fs ← readObject kind j
  let _ ← fs.part "spec" Kube.Schema.hostSpec
  let _ ← fs.part "status" Kube.Schema.hostStatus
  some { metadata := ← fs.metadata }

end Host

end RingKeeper
