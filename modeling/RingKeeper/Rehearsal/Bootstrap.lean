import RingKeeper.Bootstrap.Rejoin
import RingKeeper.Bootstrap.Replace
import RingKeeper.Rehearsal.Files
import RingKeeper.Rehearsal.Retry
import RingKeeper.Rehearsal.Store

/-!
# Rehearsing a bootstrap

The surroundings of a bootstrap: a disturbed store, nodes that answer commands from a script, the
files of the working directory, and a clock that only moves while the procedure sleeps.
-/

namespace RingKeeper.Rehearsal

open Bootstrap (Question Answer Procedure)

/-- The answers of one node. -/
structure NodeScript where
  /-- The failures and successes of connecting, each for one time; then it succeeds. -/
  connections : List (Attempt Unit) := []
  /-- The answers to each command, one after the other; the last one stays. -/
  outputs : Table String (List (Attempt String)) := ∅

namespace NodeScript

def connect (n : NodeScript) : Attempt Unit × NodeScript :=
  match n.connections with
  | [] => (.ok (), n)
  | r :: rs => (r, { n with connections := rs })

/-- A node that has no answer to a command refuses it. -/
def run (n : NodeScript) (command : String) : Attempt String × NodeScript :=
  match (n.outputs.get? command).bind playNext with
  | none => (.error (.ofKind (.commandFailed command "connection refused")), n)
  | some (output, left) => (output, { n with outputs := n.outputs.insert command left })

end NodeScript

/-- The name under which a node's script is kept. -/
def nodeName : Admin.Target → String
  | .own => "local"
  | .peer host => host

structure BootstrapRun where
  store : StoreRun
  nodes : Table String NodeScript := ∅
  files : Files := .fresh
  /-- The time that has passed. -/
  clock : Span := .zero
  /-- The commands and connections made, latest first. -/
  commands : List String := []

namespace BootstrapRun

def script (r : BootstrapRun) (name : String) : NodeScript :=
  (r.nodes.get? name).getD {}

def setScript (r : BootstrapRun) (name : String) (script : NodeScript) : BootstrapRun :=
  { r with nodes := r.nodes.insert name script }

/-- Runs a command, which takes no time. -/
def command (r : BootstrapRun) (target : Admin.Target) (name : String) :
    Attempt String × BootstrapRun :=
  let node := nodeName target
  let (a, script) := (r.script node).run name
  (a, { (r.setScript node script) with commands := s!"{node} {name}" :: r.commands })

/-- Answers a question; giving up has no answer. -/
def answer (r : BootstrapRun) : (q : Question) → Option (Answer q × BootstrapRun)
  | .store call =>
    let (a, store) := r.store.answer call
    some (a, { r with store })
  | .connect host =>
    let (a, script) := (r.script host).connect
    some (a, { (r.setScript host script) with commands := s!"connect {host}" :: r.commands })
  | .command target name => some (r.command target name)
  | .commandWithin _ target name =>
    let (a, r) := r.command target name
    some (.finished .zero a, r)
  | .lookUp path => some (r.files.lookUp path, r)
  | .overwrite path text =>
    match r.files.overwrite path (Text.encode text) with
    | .ok files => some (.ok (), { r with files })
    | .error f => some (.error f, r)
  | .sleep span => some ((), { r with clock := r.clock + span })
  | .halt => none

/-- Runs a procedure to its end, if it has one. -/
def run {α : Type} (r : BootstrapRun) (p : Procedure α) : Option (α × BootstrapRun) :=
  (show StateT BootstrapRun Option α from p.perform fun q r => r.answer q).run r

end BootstrapRun

end RingKeeper.Rehearsal
