import RingKeeper.Recovery.Basic
import RingKeeper.Text.Number
import RingKeeper.Width

/-!
# A cluster

Pods, claims, volumes and nodes under their names, and what the calls of the recovery do to them. A
volume is replaced only in the version that is stored, and then has the next one.
-/

namespace RingKeeper.Recovery

structure Cluster where
  /-- Pods and claims are kept by namespace and name. -/
  pods : Table (String × String) Pod := ∅
  claims : Table (String × String) Claim := ∅
  volumes : Table String Volume := ∅
  hosts : Table String Host := ∅
deriving DecidableEq, Repr

namespace Cluster

def nextVersion (version : Option String) : String :=
  match Text.naturalBelow Width.bits64 (version.getD "").toList with
  | .ok n => toString (n + 1)
  | .error _ => "1"

/-- The volume as it is stored by a replacement. -/
def inNextVersion (v : Volume) : Volume :=
  { v with metadata :=
    { v.metadata with resourceVersion := some (nextVersion v.metadata.resourceVersion) } }

def replaceVolume (c : Cluster) (v : Volume) : Attempt Unit × Cluster :=
  match c.volumes.get? v.name with
  | none => (.error (.message s!"PV {v.name} does not exist"), c)
  | some stored =>
    if stored.metadata.resourceVersion = v.metadata.resourceVersion then
      (.ok (), { c with volumes := c.volumes.insert v.name (inNextVersion v) })
    else (.error (.ofKind (.conflict v.name)), c)

def answer (c : Cluster) : (q : Question) → Answer q × Cluster
  | .getPod inNamespace name => (.ok (c.pods.get? (inNamespace, name)), c)
  | .getClaim inNamespace name => (.ok (c.claims.get? (inNamespace, name)), c)
  | .getVolume name => (.ok (c.volumes.get? name), c)
  | .hostExists name => (.ok (c.hosts.get? name).isSome, c)
  | .replaceVolume v => c.replaceVolume v
  | .deleteClaim inNamespace name =>
    (.ok (), { c with claims := c.claims.erase (inNamespace, name) })
  | .deletePod inNamespace name => (.ok (), { c with pods := c.pods.erase (inNamespace, name) })

/-- Runs a procedure on a cluster whose calls never fail. -/
def run {α : Type} (c : Cluster) (p : Procedure α) : α × Cluster :=
  (show StateM Cluster α from p.perform fun q c => c.answer q).run c

def putPod (c : Cluster) (p : Pod) : Cluster :=
  { c with pods := c.pods.insert (p.metadata.namespaceOrEmpty, p.metadata.nameOrEmpty) p }

def putClaim (c : Cluster) (p : Claim) : Cluster :=
  { c with claims := c.claims.insert (p.metadata.namespaceOrEmpty, p.metadata.nameOrEmpty) p }

def putVolume (c : Cluster) (v : Volume) : Cluster :=
  { c with volumes := c.volumes.insert v.name v }

def putHost (c : Cluster) (h : Host) : Cluster :=
  { c with hosts := c.hosts.insert h.metadata.nameOrEmpty h }

end Cluster

end RingKeeper.Recovery
