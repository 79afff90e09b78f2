import RingKeeper.Recovery.Controller

/-!
# Rehearsing a backoff

A backoff under a clock that moves on a little with every call, without any jitter. Calls whose
times cannot be represented have no answer and leave everything as it is.
-/

namespace RingKeeper.Rehearsal

open Recovery (Action)

structure BackoffRun where
  backoff : Backoff
  clock : Span := .zero

namespace BackoffRun

/-- The time that a call takes. -/
def tick : Span := ⟨100⟩

def ticked (r : BackoffRun) : BackoffRun := { r with clock := r.clock + tick }

/-- A failure of the key, and the delay that follows. -/
def fail (r : BackoffRun) (key : String) : Option (Span × BackoffRun) :=
  let r := r.ticked
  (r.backoff.fail r.clock .none key).map fun out => (out.1, { r with backoff := out.2 })

/-- What follows a failure of the key under a limit on its retries. -/
def onFailure (r : BackoffRun) (maxRetries : Nat) (key : String) : Option (Action × BackoffRun) :=
  let r := r.ticked
  (Recovery.onFailure maxRetries r.backoff r.clock .none key).map fun out =>
    (out.1, { r with backoff := out.2 })

def forget (r : BackoffRun) (key : String) : BackoffRun :=
  { r.ticked with backoff := r.backoff.forget key }

/-- Drops what is out of date when the span has passed. -/
def prune (r : BackoffRun) (ahead : Span) : Option BackoffRun :=
  let r := r.ticked
  (r.backoff.prune (r.clock + ahead)).map fun backoff => { r with backoff }

/-- Makes a call a number of times, and collects what it answers. -/
def times {α : Type} (call : BackoffRun → Option (α × BackoffRun)) :
    Nat → BackoffRun → Option (List α × BackoffRun)
  | 0, r => some ([], r)
  | n + 1, r => do
    let (a, r) ← call r
    let (more, r) ← times call n r
    some (a :: more, r)

end BackoffRun

end RingKeeper.Rehearsal
