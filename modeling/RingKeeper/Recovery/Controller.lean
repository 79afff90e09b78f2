import RingKeeper.Recovery.Backoff
import RingKeeper.Recovery.StartOver
import RingKeeper.Settings.Recovery

/-!
# The recovery controller

The controller looks at a pod whenever it hears of it. A pod whose recovery failed is looked at
again after a delay, up to a number of times; then it is left alone until it is heard of again. A
success, and being left alone, clear its record.
-/

namespace RingKeeper.Recovery

/-- The path of the list of pods that the controller watches. -/
def watchedPath (settings : RecoverySettings) : String :=
  match RecoverySettings.nonempty settings.watchNamespace with
  | some inNamespace => s!"/api/v1/namespaces/{inNamespace}/pods"
  | none => "/api/v1/pods"

/-- What happens next to a pod after a failure. -/
inductive Action where
  | requeue (delay : Span)
  | awaitChange
deriving DecidableEq, Repr

/-- The key under which the failures of a pod are recorded. -/
def podKey (inNamespace name : String) : String := s!"{inNamespace}/{name}"

/-- Tries the key again unless it has been tried often enough. -/
def onFailure (maxRetries : Nat) (b : Backoff) (now : Span) (jitter : Jitter) (key : String) :
    Option (Action × Backoff) :=
  if b.requeues key < maxRetries then
    (b.fail now jitter key).map fun r => (.requeue r.1, r.2)
  else some (.awaitChange, b.forget key)

/-- What happens next to a pod, by the outcome of its recovery. -/
def afterRecovery {α : Type} (maxRetries : Nat) (b : Backoff) (now : Span) (jitter : Jitter)
    (key : String) : Attempt α → Option (Action × Backoff)
  | .ok _ => some (.awaitChange, b.forget key)
  | .error _ => onFailure maxRetries b now jitter key

end RingKeeper.Recovery
