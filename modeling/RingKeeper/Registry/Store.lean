import RingKeeper.Registry.Basic

/-!
# A store for the registry

The store keeps at most one configmap and counts its versions. A replacement has to carry the
version that is stored; every write, whoever makes it, moves the version up by one.
-/

namespace RingKeeper

/-- The configmap as it is handed out in this version. -/
def ConfigMap.atVersion (c : ConfigMap) (version : Nat) : ConfigMap :=
  { c with metadata := { c.metadata with resourceVersion := some (toString version) } }

namespace Registry

/-- A write by someone else: keys of the tables set or removed, or the configmap deleted. -/
structure Edit where
  data : List (String × Option String) := []
  annotations : List (String × Option String) := []
  delete : Bool := false
deriving DecidableEq, Repr

/-- The table with a key set or removed. -/
def changeKey (t : TextTable) (change : String × Option String) : TextTable :=
  match change.2 with
  | some value => t.insert change.1 value
  | none => t.erase change.1

/-- A table in which a key is set or removed is there afterwards, even if nothing is left in it. -/
def editTable (t : Option TextTable) : List (String × Option String) → Option TextTable
  | [] => t
  | changes => some (changes.foldl changeKey (t.getD .empty))

/-- The tables of the configmap after the edit. -/
def Edit.apply (e : Edit) (c : ConfigMap) : ConfigMap :=
  { c with
    data := editTable c.data e.data
    metadata := { c.metadata with annotations := editTable c.metadata.annotations e.annotations } }

structure Store where
  /-- The configmap, if there is one, and the number of its version. -/
  stored : Option (ConfigMap × Nat)
deriving DecidableEq, Repr

namespace Store

/-- The configmap as it is handed out now. -/
def configMap? (s : Store) : Option ConfigMap := s.stored.map fun p => p.1.atVersion p.2

def get (s : Store) (name : String) : Attempt ConfigMap :=
  match s.configMap? with
  | some c =>
    if c.metadata.name = some name then .ok c else .error (.ofKind (.registryNotFound name))
  | none => .error (.ofKind (.registryNotFound name))

/-- Stores the configmap under the next version, if it carries the stored one. -/
def replace (s : Store) (c : ConfigMap) : Attempt ConfigMap × Store :=
  match s.stored with
  | none => (.error (.ofKind (.registryNotFound c.name)), s)
  | some (current, version) =>
    if current.metadata.name ≠ some c.name then
      (.error (.ofKind (.registryNotFound c.name)), s)
    else if c.metadata.resourceVersion ≠ some (toString version) then
      (.error (.ofKind (.conflict c.name)), s)
    else (.ok (c.atVersion (version + 1)), ⟨some (c, version + 1)⟩)

def answer (s : Store) : (q : Question) → Answer q × Store
  | .get name => (s.get name, s)
  | .replace c => s.replace c

def edit (s : Store) (e : Edit) : Store :=
  if e.delete then ⟨none⟩ else ⟨s.stored.map fun p => (e.apply p.1, p.2 + 1)⟩

end Store

end Registry

end RingKeeper
