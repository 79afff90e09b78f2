import RingKeeper.Fault
import RingKeeper.Plan
import RingKeeper.Span

/-!
# Retries

An operation is tried a bounded number of times with a fixed delay between two tries. It ends at
the first success, at the first fatal fault, or with the last fault; nothing is delayed after the
last try.
-/

namespace RingKeeper

structure RetryPolicy where
  /-- The most tries that are made; one is made in any case. -/
  attempts : Nat
  delay : Span
deriving DecidableEq, Repr

namespace RetryPolicy

/-- Ten tries, three seconds apart. -/
def standard : RetryPolicy := ⟨10, .ofSeconds 3⟩

variable {Q : Type} {A : Q → Type} {α : Type}

/-- Tries the operation, and up to `more` times again. -/
def tryAgain (pause : Plan Q A Unit) (operation : Plan Q A (Attempt α)) :
    (more : Nat) → Plan Q A (Attempt α)
  | 0 => operation
  | more + 1 => do
    match ← operation with
    | .ok a => return .ok a
    | .error f =>
      if f.isFatal then return .error f
      else
        pause
        tryAgain pause operation more

/-- Tries the operation as often as the policy allows. -/
def retry (policy : RetryPolicy) (sleep : Span → Plan Q A Unit)
    (operation : Plan Q A (Attempt α)) : Plan Q A (Attempt α) :=
  tryAgain (sleep policy.delay) operation (policy.attempts - 1)

end RetryPolicy

end RingKeeper
