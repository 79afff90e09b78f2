import RingKeeper.Program.Bootstrap
import RingKeeper.Program.Recovery
import RingKeeper.Rehearsal.Machine

/-!
# Rehearsing a program

A machine without a network. A client for the cluster can be made where the machine is set up for
one, but every request of it breaks off.
-/

namespace RingKeeper.Rehearsal

open Program (Question Answer Procedure Message)

structure ProgramRun where
  machine : Machine := {}
  /-- Whether the machine is set up for a cluster. -/
  knowsCluster : Bool := false
  clock : Span := .zero
  /-- What the program told, latest first. -/
  messages : List Message := []

namespace ProgramRun

/-- How an exchange breaks off without a network. -/
def noNetwork : String :=
  "HyperError: error trying to connect: tcp connect error: Network is unreachable (os error 101)"

/-- The variables of a program that is started here, in the order of their names. -/
def started (env : Environment) : Environment := env.mergeSort fun v w => decide (v.1 ≤ w.1)

/-- Answers a question; giving up has no answer. -/
def answer (r : ProgramRun) : (q : Question) → Option (Answer q × ProgramRun)
  | .makeClient =>
    some (if r.knowsCluster then .ok () else .error "the cluster is not known", r)
  | .request _ => some (.broken noNetwork, r)
  | .tool q =>
    let (a, machine) := r.machine.answer q
    some (a, { r with machine })
  | .lookUp path => some (r.machine.files.lookUp path, r)
  | .overwrite path text =>
    match r.machine.files.overwrite path (Text.encode text) with
    | .ok files => some (.ok (), { r with machine := { r.machine with files } })
    | .error f => some (.error f, r)
  | .sleep span => some ((), { r with clock := r.clock + span })
  | .halt => none
  | .supervise _ => some ((), r)
  | .say message => some ((), { r with messages := message :: r.messages })

/-- Runs a procedure to its end, if it has one. -/
def run {α : Type} (r : ProgramRun) (p : Procedure α) : Option (α × ProgramRun) :=
  (show StateT ProgramRun Option α from p.perform fun q r => r.answer q).run r

end ProgramRun

end RingKeeper.Rehearsal
