import RingKeeper.Recovery.StartOver
import RingKeeper.Recovery.Cluster

/-!
# Rehearsing a recovery

A cluster that keeps a record of the calls made to it, and fails the calls that were picked in
advance. A call that fails changes nothing. Pods and claims are found by one text, the namespace and
the name with a slash between them.
-/

namespace RingKeeper.Rehearsal

open Recovery (Question Answer Procedure Cluster)

/-- The text by which a call is picked. -/
def callText : Question → String
  | .getPod inNamespace name => s!"get_pod {inNamespace}/{name}"
  | .getClaim inNamespace name => s!"get_pvc {inNamespace}/{name}"
  | .getVolume name => s!"get_pv {name}"
  | .hostExists name => s!"node_exists {name}"
  | .replaceVolume v => s!"replace_pv {v.name}"
  | .deleteClaim inNamespace name => s!"delete_pvc {inNamespace}/{name}"
  | .deletePod inNamespace name => s!"delete_pod {inNamespace}/{name}"

/-- The failure of calls of this text, for a number of times or for good. -/
structure PlannedFailure where
  call : String
  times : Option Nat
  fault : Fault

namespace PlannedFailure

def applies (p : PlannedFailure) (call : String) : Bool :=
  decide (p.call = call) && p.times.all fun n => decide (0 < n)

/-- The plans after one use of the first that applies, and the fault of that one. -/
def take (call : String) : List PlannedFailure → Option (Fault × List PlannedFailure)
  | [] => none
  | p :: ps =>
    if p.applies call then some (p.fault, { p with times := p.times.map (· - 1) } :: ps)
    else (take call ps).map fun r => (r.1, p :: r.2)

end PlannedFailure

structure ClusterRun where
  cluster : Cluster := {}
  failures : List PlannedFailure := []
  /-- The calls made, latest first. -/
  calls : List Question := []

/-- The key of the namespace and the name that a text with a slash between them begins with. -/
def keyOf (inNamespace name : String) : String × String :=
  let cs := s!"{inNamespace}/{name}".toList
  (String.ofList (cs.takeWhile fun c => decide (c ≠ '/')),
    String.ofList ((cs.dropWhile fun c => decide (c ≠ '/')).drop 1))

/-- Answers a question about the object that is found by its text. -/
def answerByText (c : Cluster) : (q : Question) → Answer q × Cluster
  | .getPod inNamespace name =>
    let key := keyOf inNamespace name
    c.answer (.getPod key.1 key.2)
  | .getClaim inNamespace name =>
    let key := keyOf inNamespace name
    c.answer (.getClaim key.1 key.2)
  | .deleteClaim inNamespace name =>
    let key := keyOf inNamespace name
    c.answer (.deleteClaim key.1 key.2)
  | .deletePod inNamespace name =>
    let key := keyOf inNamespace name
    c.answer (.deletePod key.1 key.2)
  | q => c.answer q

/-- Stores a pod under its text. -/
def putPod (c : Cluster) (p : Pod) : Cluster :=
  { c with pods := c.pods.insert (keyOf p.metadata.namespaceOrEmpty p.metadata.nameOrEmpty) p }

/-- Stores a claim under its text. -/
def putClaim (c : Cluster) (p : Claim) : Cluster :=
  { c with claims := c.claims.insert (keyOf p.metadata.namespaceOrEmpty p.metadata.nameOrEmpty) p }

namespace ClusterRun

def answer (r : ClusterRun) (q : Question) : Answer q × ClusterRun :=
  let r := { r with calls := q :: r.calls }
  match PlannedFailure.take (callText q) r.failures with
  | some (f, failures) => (Recovery.failed f q, { r with failures })
  | none =>
    let (a, cluster) := answerByText r.cluster q
    (a, { r with cluster })

def run {α : Type} (r : ClusterRun) (p : Procedure α) : α × ClusterRun :=
  (show StateM ClusterRun α from p.perform fun q r => r.answer q).run r

end ClusterRun

/-! ### What a cluster holds -/

def podId (key : String × String) : String := s!"pod {key.1}/{key.2}"

def claimId (key : String × String) : String := s!"pvc {key.1}/{key.2}"

def volumeId (name : String) : String := s!"pv {name}"

def hostId (name : String) : String := s!"node {name}"

/-- The ids of the objects of a cluster, in order. -/
def objectIds (c : Cluster) : List String :=
  (c.pods.keys.map podId ++ c.claims.keys.map claimId ++ c.volumes.keys.map volumeId
    ++ c.hosts.keys.map hostId).mergeSort

/-- The entries of a table but those with this id. -/
def withoutId {κ α : Type} (idOf : κ → String) (id : String) (t : Table κ α) : Table κ α :=
  ⟨t.entries.filter fun e => decide (idOf e.1 ≠ id)⟩

/-- The cluster without the object of this id. -/
def removeObject (c : Cluster) (id : String) : Cluster where
  pods := withoutId podId id c.pods
  claims := withoutId claimId id c.claims
  volumes := withoutId volumeId id c.volumes
  hosts := withoutId hostId id c.hosts

end RingKeeper.Rehearsal
