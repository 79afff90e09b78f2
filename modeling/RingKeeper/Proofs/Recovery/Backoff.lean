import RingKeeper.Proofs.Table
import RingKeeper.Recovery.Backoff

/-!
# Failures on record

What the operations of the backoff make of the failures on record. `get?_prune_of_recent` says that
a key whose last failure is not out of date is not dropped, and `CountsUpTo` that no count is beyond
a bound, which is kept as long as only counts below it are raised.
-/

namespace RingKeeper.Backoff

variable {b pruned : Backoff} {now : Span} {key other : String} {f : Failures} {most : Nat}

theorem requeues_of_some (h : b.failures.get? key = some f) : b.requeues key = f.count := by
  unfold requeues
  rw [h]
  rfl

theorem requeues_of_none (h : b.failures.get? key = none) : b.requeues key = 0 := by
  unfold requeues
  rw [h]
  rfl

theorem get?_forget_self (b : Backoff) (key : String) : (b.forget key).failures.get? key = none :=
  Table.get?_erase_self _ _

theorem get?_forget_of_ne (b : Backoff) (h : key ≠ other) :
    (b.forget key).failures.get? other = b.failures.get? other :=
  Table.get?_erase_of_ne _ h

theorem get?_record_self (b : Backoff) (now : Span) (key : String) :
    (b.record now key).failures.get? key = some ⟨b.requeues key + 1, now⟩ :=
  Table.get?_insert_self _ _ _

theorem get?_record_of_ne (b : Backoff) (now : Span) (h : key ≠ other) :
    (b.record now key).failures.get? other = b.failures.get? other :=
  Table.get?_insert_of_ne _ _ h

/-! ## Dropping what is out of date -/

theorem prune_eq (h : b.prune now = some pruned) : ∃ lifetime, b.lifetime? = some lifetime ∧
    pruned = { b with failures := ⟨b.failures.entries.filter fun e =>
      decide (now.nanos - e.2.last.nanos ≤ lifetime.nanos)⟩ } := by
  obtain ⟨lifetime, hlifetime, rfl⟩ := Option.map_eq_some_iff.mp h
  exact ⟨lifetime, hlifetime, rfl⟩

/-- A failure is answered and recorded after what is out of date was dropped. -/
theorem fail_of_prune (h : b.prune now = some pruned) (jitter : Jitter) (key : String) :
    b.fail now jitter key =
      some (pruned.delay (pruned.requeues key) jitter, pruned.record now key) := by
  unfold fail
  rw [h]
  rfl

theorem get?_prune_of_none (h : b.prune now = some pruned) (hkey : b.failures.get? key = none) :
    pruned.failures.get? key = none := by
  obtain ⟨lifetime, -, rfl⟩ := prune_eq h
  exact Table.get?_filter_of_none _ hkey

/-- A key whose last failure is not out of date stays on record. -/
theorem get?_prune_of_recent {lifetime : Span} (h : b.prune now = some pruned)
    (hlifetime : b.lifetime? = some lifetime) (hkey : b.failures.get? key = some f)
    (hrecent : now.nanos - f.last.nanos ≤ lifetime.nanos) :
    pruned.failures.get? key = some f := by
  obtain ⟨l, hl, rfl⟩ := prune_eq h
  rw [hlifetime] at hl
  cases hl
  exact Table.get?_filter_of_some hkey (decide_eq_true hrecent)

/-! ## Bounded counts -/

/-- No count on record is beyond the bound. -/
def CountsUpTo (b : Backoff) (most : Nat) : Prop := ∀ e ∈ b.failures.entries, e.2.count ≤ most

theorem CountsUpTo.requeues_le (h : b.CountsUpTo most) (key : String) :
    b.requeues key ≤ most := by
  cases hkey : b.failures.get? key with
  | none =>
    rw [requeues_of_none hkey]
    exact Nat.zero_le most
  | some f =>
    rw [requeues_of_some hkey]
    exact h (key, f) (Table.mem_of_get? hkey)

theorem CountsUpTo.forget (h : b.CountsUpTo most) (key : String) :
    (b.forget key).CountsUpTo most := by
  intro e he
  exact h e (List.mem_filter.mp he).1

theorem CountsUpTo.prune (h : b.CountsUpTo most) (hpruned : b.prune now = some pruned) :
    pruned.CountsUpTo most := by
  obtain ⟨lifetime, -, rfl⟩ := prune_eq hpruned
  intro e he
  exact h e (List.mem_filter.mp he).1

theorem CountsUpTo.record (h : b.CountsUpTo most) (hkey : b.requeues key < most) (now : Span) :
    (b.record now key).CountsUpTo most := by
  intro e he
  rcases Table.mem_put he with rfl | he
  · exact hkey
  · exact h e he

end RingKeeper.Backoff
