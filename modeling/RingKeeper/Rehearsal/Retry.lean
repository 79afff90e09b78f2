import RingKeeper.Retry

/-!
# Rehearsing a retry

An operation whose tries have outcomes that are fixed in advance. Time passes only between tries.
-/

namespace RingKeeper.Rehearsal

/-- The first item of a list, and what is left of it for the next time; the last item stays. -/
def playNext {α : Type} : List α → Option (α × List α)
  | [] => none
  | [a] => some (a, [a])
  | a :: as => some (a, as)

/-- The longest pause between two tries: thirty years of 365 days. -/
def longestPause : Span := .ofSeconds 946080000

example : longestPause.seconds = 30 * 365 * 24 * 3600 := by decide

/-- A pause in a rehearsal, whose clock cannot pass over more than the longest pause at once. -/
def rehearsedPause (pause : Span) : Span := ⟨min pause.nanos longestPause.nanos⟩

/-- The policy of a rehearsal. -/
def rehearsedPolicy (attempts : Nat) (delay : Span) : RetryPolicy :=
  { attempts, delay := rehearsedPause delay }

namespace Retrying

inductive Question where
  | tryOnce
  | sleep (span : Span)
deriving DecidableEq, Repr

/-- A try that succeeds answers with the number of tries before it. -/
@[reducible] def Answer : Question → Type
  | .tryOnce => Attempt Nat
  | .sleep _ => Unit

abbrev Procedure (α : Type) : Type := Plan Question Answer α

def ask (q : Question) : Procedure (Answer q) := Plan.request q

/-- The operation, tried as often as the policy allows. -/
def procedure (policy : RetryPolicy) : Procedure (Attempt Nat) :=
  policy.retry (fun span => ask (.sleep span)) (ask .tryOnce)

end Retrying

structure RetryRun where
  /-- The faults of the coming tries, none for a success; the last outcome stays. -/
  outcomes : List (Option Fault)
  tries : Nat := 0
  clock : Span := .zero

namespace RetryRun

/-- Answers a question; a try without any outcome succeeds. -/
def answer (r : RetryRun) : (q : Retrying.Question) → Retrying.Answer q × RetryRun
  | .tryOnce =>
    let (outcome, left) := (playNext r.outcomes).getD (none, [])
    let a : Attempt Nat :=
      match outcome with
      | none => .ok r.tries
      | some f => .error f
    (a, { r with outcomes := left, tries := r.tries + 1 })
  | .sleep span => ((), { r with clock := r.clock + span })

def run {α : Type} (r : RetryRun) (p : Retrying.Procedure α) : α × RetryRun :=
  (show StateM RetryRun α from p.perform fun q r => r.answer q).run r

end RetryRun

end RingKeeper.Rehearsal
