import RingKeeper.Span
import RingKeeper.Table

/-!
# Backoff

Every failure of a key doubles the delay before its next try, from a base up to a cap, and a random
part of less than a tenth keeps keys that fail together from being tried together. A key that has
not failed for twice the cap is dropped when any key fails, so that keys of deleted pods do not pile
up. Points in time are spans since some fixed start.
-/

namespace RingKeeper

/-- The random part of a delay, as a fraction of it that is less than a tenth. -/
structure Jitter where
  numerator : Nat
  denominator : Nat
  lt_tenth : 10 * numerator < denominator

def Jitter.none : Jitter := ⟨0, 1, by decide⟩

/-- The failures of a key: how many there were, and when the last one was. -/
structure Failures where
  count : Nat
  last : Span
deriving DecidableEq, Repr

structure Backoff where
  base : Span
  cap : Span
  failures : Table String Failures := ∅
deriving DecidableEq, Repr

namespace Backoff

/-- From five milliseconds up to a thousand seconds. -/
def standard : Backoff := { base := .ofMillis 5, cap := .ofSeconds 1000 }

/-- How many failures of the key are on record. -/
def requeues (b : Backoff) (key : String) : Nat := (b.failures.get? key).elim 0 (·.count)

def forget (b : Backoff) (key : String) : Backoff := { b with failures := b.failures.erase key }

/-- The most doublings of a delay. -/
def mostDoublings : Nat := 63

/-- The delay after `n` earlier failures, before the random part. -/
def plainDelay (b : Backoff) (n : Nat) : Span :=
  ⟨min (b.base.nanos * Nat.pow 2 (min n mostDoublings)) b.cap.nanos⟩

/-- The delay after `n` earlier failures; the random part does not lift it over the cap. -/
def delay (b : Backoff) (n : Nat) (jitter : Jitter) : Span :=
  let d := (b.plainDelay n).nanos
  ⟨min (d + d * jitter.numerator / jitter.denominator) b.cap.nanos⟩

/-- How long failures stay on record: twice the cap, which the clock has to be able to represent. -/
def lifetime? (b : Backoff) : Option Span :=
  let twice : Span := ⟨2 * b.cap.nanos⟩
  if twice.Fits then some twice else none

/-- Drops the keys whose last failure is out of date at the time `now`. -/
def prune (b : Backoff) (now : Span) : Option Backoff :=
  b.lifetime?.map fun lifetime =>
    { b with failures := ⟨b.failures.entries.filter fun e =>
        decide (now.nanos - e.2.last.nanos ≤ lifetime.nanos)⟩ }

/-- Puts a failure of the key on record. -/
def record (b : Backoff) (now : Span) (key : String) : Backoff :=
  { b with failures := b.failures.insert key ⟨b.requeues key + 1, now⟩ }

/--
Takes note of a failure at the time `now`, and answers with the delay before the next try. Without a
lifetime that the clock can represent there is no answer, and nothing is noted.
-/
def fail (b : Backoff) (now : Span) (jitter : Jitter) (key : String) : Option (Span × Backoff) :=
  (b.prune now).map fun b => (b.delay (b.requeues key) jitter, b.record now key)

end Backoff

end RingKeeper
