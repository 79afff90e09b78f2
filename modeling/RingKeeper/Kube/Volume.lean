import RingKeeper.Kube.Metadata
import RingKeeper.Kube.Schema.Storage

/-!
# Persistent volumes

A volume may be claimed, and it may be pinned to nodes by its node affinity. Volumes are written
back, so every field that they are given is kept.
-/

namespace RingKeeper

/-- A condition on the labels or fields of a node. -/
structure NodeRequirement where
  key : String
  operator : String
  values : Option (List String) := none
deriving DecidableEq, Repr

/-- A set of conditions of which all have to hold. -/
structure NodeTerm where
  matchExpressions : Option (List NodeRequirement) := none
  matchFields : Option (List NodeRequirement) := none
deriving DecidableEq, Repr

/-- A reference to another object. -/
structure ObjectReference where
  apiVersion : Option String := none
  fieldPath : Option String := none
  kind : Option String := none
  name : Option String := none
  inNamespace : Option String := none
  resourceVersion : Option String := none
  uid : Option String := none
deriving DecidableEq, Repr

structure NodeAffinity where
  /-- The terms of which one has to hold. -/
  required : Option (List NodeTerm) := none
deriving DecidableEq, Repr

structure VolumeSpec where
  /-- The claim that the volume belongs to. -/
  claimRef : Option ObjectReference := none
  nodeAffinity : Option NodeAffinity := none
  /-- The other fields, in regular form. -/
  rest : Json.Fields := []
deriving DecidableEq, Repr

structure Volume where
  metadata : Metadata
  spec : Option VolumeSpec := none
  /-- The other fields, in regular form. -/
  rest : Json.Fields := []
deriving DecidableEq, Repr

open Json

namespace NodeRequirement

def ofJson (j : Json) : Option NodeRequirement := do
  let fs ← readFields j
  some
    { key := ← fs.text "key"
      operator := ← fs.text "operator"
      values := ← fs.read? "values" (readList str?) }

def toJson (r : NodeRequirement) : Json :=
  obj ([("key", str r.key), ("operator", str r.operator)] ++ field "values" ofTexts r.values)

end NodeRequirement

namespace NodeTerm

def ofJson (j : Json) : Option NodeTerm := do
  let fs ← readFields j
  some
    { matchExpressions := ← fs.read? "matchExpressions" (readList NodeRequirement.ofJson)
      matchFields := ← fs.read? "matchFields" (readList NodeRequirement.ofJson) }

def toJson (t : NodeTerm) : Json :=
  let requirements (rs : List NodeRequirement) : Json := arr (rs.map (·.toJson))
  obj (field "matchExpressions" requirements t.matchExpressions
    ++ field "matchFields" requirements t.matchFields)

end NodeTerm

namespace ObjectReference

def ofJson (j : Json) : Option ObjectReference := do
  let fs ← readFields j
  some
    { apiVersion := ← fs.read? "apiVersion" str?
      fieldPath := ← fs.read? "fieldPath" str?
      kind := ← fs.read? "kind" str?
      name := ← fs.read? "name" str?
      inNamespace := ← fs.read? "namespace" str?
      resourceVersion := ← fs.read? "resourceVersion" str?
      uid := ← fs.read? "uid" str? }

def toJson (r : ObjectReference) : Json :=
  obj (field "apiVersion" str r.apiVersion
    ++ field "fieldPath" str r.fieldPath
    ++ field "kind" str r.kind
    ++ field "name" str r.name
    ++ field "namespace" str r.inNamespace
    ++ field "resourceVersion" str r.resourceVersion
    ++ field "uid" str r.uid)

end ObjectReference

namespace NodeAffinity

def ofJson (j : Json) : Option NodeAffinity := do
  let fs ← readFields j
  let required ← fs.read? "required" fun j => do
    let terms ← (← readFields j).read? "nodeSelectorTerms" (readList NodeTerm.ofJson)
    some (terms.getD [])
  some { required }

def toJson (a : NodeAffinity) : Json :=
  let selector (terms : List NodeTerm) : Json :=
    obj [("nodeSelectorTerms", arr (terms.map (·.toJson)))]
  obj (field "required" selector a.required)

end NodeAffinity

namespace VolumeSpec

/-- Fields of a specification lie in the object and in its specification. -/
def depth : Nat := 2

def ofJson (j : Json) : Option VolumeSpec := do
  let fs ← readFields j
  some
    { claimRef := ← fs.read? "claimRef" ObjectReference.ofJson
      nodeAffinity := ← fs.read? "nodeAffinity" NodeAffinity.ofJson
      rest := ← Shape.readGroups depth Kube.Schema.volumeSpecRest fs }

def toJson (s : VolumeSpec) : Json :=
  obj (field "claimRef" ObjectReference.toJson s.claimRef
    ++ field "nodeAffinity" NodeAffinity.toJson s.nodeAffinity
    ++ s.rest)

end VolumeSpec

namespace Volume

def kind : String := "PersistentVolume"

def restGroups : List Shape.Group := [Shape.may ["status"] Kube.Schema.volumeStatus]

def ofJson (j : Json) : Option Volume := do
  let fs ← readObject kind j
  some
    { metadata := ← fs.metadata
      spec := ← fs.read? "spec" VolumeSpec.ofJson
      rest := ← Shape.readGroups 1 restGroups fs }

def toJson (v : Volume) : Json :=
  object kind v.metadata (field "spec" VolumeSpec.toJson v.spec ++ v.rest)

def name (v : Volume) : String := v.metadata.nameOrEmpty

/-- The claim that the volume belongs to. -/
def claimRef? (v : Volume) : Option ObjectReference := v.spec.bind (·.claimRef)

/-- The volume without its claim, and otherwise the same. -/
def unclaimed (v : Volume) : Volume :=
  { v with spec := v.spec.map fun s => { s with claimRef := none } }

@[simp] theorem claimRef?_unclaimed (v : Volume) : v.unclaimed.claimRef? = none := by
  cases h : v.spec <;> simp [claimRef?, unclaimed, h]

@[simp] theorem metadata_unclaimed (v : Volume) : v.unclaimed.metadata = v.metadata := rfl

def hostnameKey : String := "kubernetes.io/hostname"

/--
The node that the volume is pinned to: the first value of the first requirement on the hostname,
whatever that requirement says about it.
-/
def requiredHost? (v : Volume) : Option String := do
  let terms ← (← (← v.spec).nodeAffinity).required
  let requirement ← (terms.flatMap fun t => t.matchExpressions.getD []).find? fun r =>
    decide (r.key = hostnameKey)
  (← requirement.values).head?

end Volume

end RingKeeper
