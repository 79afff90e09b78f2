import Mathlib.Algebra.Group.Nat.Defs
import RingKeeper.Proofs.Recovery.Backoff

/-!
# Stretches of failures

A backoff is called in any order, with any keys, and at any times. What is on record of a key goes by
the calls since it was last cleared: forgotten, or dropped because it was out of date.

1. `after` is what a history of calls leaves of a new backoff, and `since` are the calls since a key
   was last cleared; `stretch` counts its failures among them.
2. `Tracks` is the invariant: on record of each key are the failures of its stretch, and the last of
   them. `tracks_after` says that all histories keep it, and `after_of_not_fits` that nothing is ever
   on record where the lifetime of failures has no representation.
3. `IsDelayAfter` are the delays that may follow after some failures.
4. `counts_stretches` puts them together.
-/

namespace RingKeeper.Backoff

/-! ## Histories -/

/-- A call to the backoff. -/
inductive Call where
  | fail (now : Span) (jitter : Jitter) (key : String)
  | forget (key : String)
  | requeues (key : String)
  | prune (now : Span)

/-- What the call makes of the backoff; one that has no answer leaves it as it is. -/
def Call.follow (b : Backoff) : Call → Backoff
  | fail now jitter key => ((b.fail now jitter key).map (·.2)).getD b
  | forget key => b.forget key
  | requeues _ => b
  | prune now => (b.prune now).getD b

/-- What the calls, latest first, make of a new backoff. -/
def after (base cap : Span) : List Call → Backoff
  | [] => { base, cap }
  | call :: past => call.follow (after base cap past)

def Call.fails (key : String) : Call → Bool
  | fail _ _ k => decide (k = key)
  | _ => false

/-- When the key failed last. -/
def lastFailure? (key : String) : List Call → Option Span
  | [] => none
  | .fail now _ k :: past => if k = key then some now else lastFailure? key past
  | _ :: past => lastFailure? key past

/-- Whether the last failure of the key lies back more than twice the cap. -/
def isOutOfDate (cap : Span) (key : String) (past : List Call) (now : Span) : Bool :=
  (lastFailure? key past).any fun last => decide (last.nanos + 2 * cap.nanos < now.nanos)

/-- Whether the call, after these calls, forgets the key or drops it. A failure of any key drops what
is out of date before it is recorded itself. -/
def Call.clears (cap : Span) (key : String) (past : List Call) : Call → Bool
  | fail now _ _ => isOutOfDate cap key past now
  | forget k => decide (k = key)
  | requeues _ => false
  | prune now => isOutOfDate cap key past now

/-- The calls from the one on that last cleared the key, which may be a failure of it. -/
def since (cap : Span) (key : String) : List Call → List Call
  | [] => []
  | call :: past => call :: if call.clears cap key past then [] else since cap key past

/-- How often the key failed since it was last cleared. -/
def stretch (cap : Span) (key : String) (past : List Call) : Nat :=
  (since cap key past).countP (·.fails key)

/-- The call as far as it concerns the key: of a failure of another key, only that it drops what is
out of date. -/
def Call.concerning (key : String) : Call → Option Call
  | fail now jitter k => if k = key then some (fail now jitter k) else some (prune now)
  | forget k => if k = key then some (forget k) else none
  | requeues _ => none
  | prune now => some (prune now)

section
variable {cap now : Span} {key k : String} {past : List Call} {jitter : Jitter}

theorem stretch_cons (cap : Span) (key : String) (call : Call) (past : List Call) :
    stretch cap key (call :: past) =
      (if call.clears cap key past then 0 else stretch cap key past) +
        if call.fails key then 1 else 0 := by
  unfold stretch
  rw [since, List.countP_cons]
  split <;> rfl

theorem stretch_prune : stretch cap key (.prune now :: past) =
    if isOutOfDate cap key past now then 0 else stretch cap key past := stretch_cons ..

theorem stretch_fail : stretch cap key (.fail now jitter k :: past) =
    stretch cap key (.prune now :: past) + if k = key then 1 else 0 := by
  rw [stretch_prune, stretch_cons]
  by_cases hk : k = key <;> simp only [Call.fails, hk] <;> rfl

theorem stretch_forget : stretch cap key (.forget k :: past) =
    if k = key then 0 else stretch cap key past := by
  rw [stretch_cons]
  by_cases hk : k = key <;> simp only [Call.clears, hk] <;> rfl

theorem stretch_requeues : stretch cap key (.requeues k :: past) = stretch cap key past :=
  stretch_cons ..

/-- A key that is in a stretch failed some time. -/
theorem exists_lastFailure (h : stretch cap key past ≠ 0) :
    ∃ last, lastFailure? key past = some last := by
  induction past with
  | nil => exact absurd rfl h
  | cons call past ih =>
    by_cases hfails : call.fails key = true
    · cases call with
      | fail now jitter k => exact ⟨now, if_pos (of_decide_eq_true hfails)⟩
      | forget k => cases hfails
      | requeues k => cases hfails
      | prune now => cases hfails
    · rw [stretch_cons, if_neg hfails, Nat.add_zero] at h
      have hpast : stretch cap key past ≠ 0 := by
        split at h
        · exact absurd rfl h
        · exact h
      obtain ⟨last, hlast⟩ := ih hpast
      cases call with
      | fail now jitter k =>
        have hk : ¬ k = key := fun hk => hfails (decide_eq_true hk)
        exact ⟨last, by rw [lastFailure?, if_neg hk, hlast]⟩
      | forget k => exact ⟨last, hlast⟩
      | requeues k => exact ⟨last, hlast⟩
      | prune now => exact ⟨last, hlast⟩

theorem lastFailure?_concerning (key : String) (past : List Call) :
    lastFailure? key (past.filterMap (Call.concerning key)) = lastFailure? key past := by
  induction past with
  | nil => rfl
  | cons call past ih =>
    cases call with
    | fail now jitter k => by_cases hk : k = key <;> simp [Call.concerning, lastFailure?, hk, ih]
    | forget k => by_cases hk : k = key <;> simp [Call.concerning, lastFailure?, hk, ih]
    | requeues k => exact ih
    | prune now => exact ih

/-- What does not concern a key is no part of its stretches. -/
theorem stretch_concerning (cap : Span) (key : String) (past : List Call) :
    stretch cap key (past.filterMap (Call.concerning key)) = stretch cap key past := by
  induction past with
  | nil => rfl
  | cons call past ih =>
    have hprune (now : Span) :
        stretch cap key (.prune now :: past.filterMap (Call.concerning key)) =
          stretch cap key (.prune now :: past) := by
      rw [stretch_prune, stretch_prune, ih]
      unfold isOutOfDate
      rw [lastFailure?_concerning]
    cases call with
    | fail now jitter k =>
      by_cases hk : k = key <;> simp [Call.concerning, stretch_fail, hk, hprune]
    | forget k => by_cases hk : k = key <;> simp [Call.concerning, stretch_forget, hk, ih]
    | requeues k => exact ih.trans stretch_requeues.symm
    | prune now => exact hprune now

end

/-! ## What is on record -/

/-- The failures of the key's stretch, and the last of them. -/
def onRecord? (cap : Span) (key : String) (past : List Call) : Option Failures :=
  if stretch cap key past = 0 then none
  else (lastFailure? key past).map fun last => ⟨stretch cap key past, last⟩

/-- What is on record after the calls. -/
structure Tracks (base cap : Span) (past : List Call) (b : Backoff) : Prop where
  base_eq : b.base = base
  cap_eq : b.cap = cap
  nodup : b.failures.keys.Nodup
  get?_eq : ∀ key, b.failures.get? key = onRecord? cap key past

/-- Twice the cap, if the clock can represent it. -/
abbrev HasLifetime (cap : Span) : Prop := (⟨2 * cap.nanos⟩ : Span).Fits

section
variable {base cap now : Span} {key : String} {past : List Call} {b : Backoff} {jitter : Jitter}

/-- The count on record is that of the stretch. -/
theorem count_onRecord (cap : Span) (key : String) (past : List Call) :
    (onRecord? cap key past).elim 0 (·.count) = stretch cap key past := by
  unfold onRecord?
  split
  · rename_i hzero
    exact hzero.symm
  · rename_i hne
    obtain ⟨last, hlast⟩ := exists_lastFailure hne
    rw [hlast]
    rfl

theorem onRecord?_filter (cap now : Span) (key : String) (past : List Call) :
    ((onRecord? cap key past).filter fun f => decide (now.nanos - f.last.nanos ≤ 2 * cap.nanos)) =
      if isOutOfDate cap key past now then none else onRecord? cap key past := by
  unfold onRecord? isOutOfDate
  by_cases hzero : stretch cap key past = 0
  · simp [hzero]
  obtain ⟨last, hlast⟩ := exists_lastFailure hzero
  by_cases hold : last.nanos + 2 * cap.nanos < now.nanos
  · have hdrop : ¬ now.nanos - last.nanos ≤ 2 * cap.nanos := by omega
    simp only [hlast, Option.any_some, decide_eq_true hold, if_true, if_neg hzero, Option.map_some,
      Option.filter_some, decide_eq_false hdrop, Bool.false_eq_true, if_false]
  · have hkeep : now.nanos - last.nanos ≤ 2 * cap.nanos := by omega
    simp only [hlast, Option.any_some, decide_eq_false hold, Bool.false_eq_true, if_false,
      if_neg hzero, Option.map_some, Option.filter_some, decide_eq_true hkeep, if_true]

theorem Tracks.requeues_eq (h : Tracks base cap past b) (key : String) :
    b.requeues key = stretch cap key past := by
  unfold requeues
  rw [h.get?_eq, count_onRecord]

/-- Dropping what is out of date succeeds, and drops nothing else. -/
theorem Tracks.exists_prune (h : Tracks base cap past b) (hcap : HasLifetime cap) (now : Span) :
    ∃ pruned, b.prune now = some pruned ∧ Tracks base cap (.prune now :: past) pruned := by
  have hlifetime : b.lifetime? = some ⟨2 * cap.nanos⟩ := by
    unfold lifetime?
    rw [h.cap_eq]
    exact if_pos hcap
  obtain ⟨pruned, hpruned⟩ : ∃ pruned, b.prune now = some pruned := by
    unfold prune
    rw [hlifetime]
    exact ⟨_, rfl⟩
  obtain ⟨lifetime, hlifetime', rfl⟩ := prune_eq hpruned
  rw [hlifetime] at hlifetime'
  cases hlifetime'
  refine ⟨_, hpruned, h.base_eq, h.cap_eq, ?_, fun key => ?_⟩
  · exact List.Nodup.sublist (List.filter_sublist.map _) h.nodup
  · rw [Table.get?_filter h.nodup, h.get?_eq, onRecord?_filter]
    unfold onRecord?
    rw [stretch_prune]
    split <;> rfl

/-- A failure is recorded after what is out of date was dropped. -/
theorem Tracks.record {pruned : Backoff} (h : Tracks base cap (.prune now :: past) pruned)
    (jitter : Jitter) (key : String) :
    Tracks base cap (.fail now jitter key :: past) (pruned.record now key) := by
  refine ⟨h.base_eq, h.cap_eq, Table.nodup_insert h.nodup _ _, fun key' => ?_⟩
  unfold onRecord?
  rw [stretch_fail, Backoff.record, Table.get?_insert, lastFailure?]
  split
  · rename_i hkey
    subst hkey
    simp [h.requeues_eq]
  · exact h.get?_eq key'

theorem Tracks.forget (h : Tracks base cap past b) (key : String) :
    Tracks base cap (.forget key :: past) (b.forget key) := by
  refine ⟨h.base_eq, h.cap_eq, ?_, fun key' => ?_⟩
  · exact List.Nodup.sublist (List.filter_sublist.map _) h.nodup
  unfold onRecord?
  rw [stretch_forget, Backoff.forget, Table.get?_erase]
  split
  · rfl
  · exact h.get?_eq key'

theorem Tracks.follow (h : Tracks base cap past b) (hcap : HasLifetime cap) (call : Call) :
    Tracks base cap (call :: past) (call.follow b) := by
  cases call with
  | fail now jitter key =>
    obtain ⟨pruned, hpruned, htracks⟩ := h.exists_prune hcap now
    have hfollow : Call.follow b (.fail now jitter key) = pruned.record now key := by
      simp only [Call.follow, fail_of_prune hpruned, Option.map_some, Option.getD_some]
    rw [hfollow]
    exact htracks.record jitter key
  | forget key => exact h.forget key
  | requeues k =>
    refine ⟨h.base_eq, h.cap_eq, h.nodup, fun key => ?_⟩
    unfold onRecord?
    rw [stretch_requeues]
    exact h.get?_eq key
  | prune now =>
    obtain ⟨pruned, hpruned, htracks⟩ := h.exists_prune hcap now
    have hfollow : Call.follow b (.prune now) = pruned := by
      simp only [Call.follow, hpruned, Option.getD_some]
    rw [hfollow]
    exact htracks

theorem tracks_after (hcap : HasLifetime cap) (base : Span) (past : List Call) :
    Tracks base cap past (after base cap past) := by
  induction past with
  | nil => exact ⟨rfl, rfl, List.nodup_nil, fun key => rfl⟩
  | cons call past ih => exact ih.follow hcap call

/-- Without a lifetime nothing can be dropped, and no failure comes to be recorded. -/
theorem prune_of_not_fits (hcap : ¬ HasLifetime b.cap) (now : Span) : b.prune now = none := by
  unfold prune lifetime?
  dsimp only
  rw [if_neg hcap]
  rfl

theorem fail_of_not_fits (hcap : ¬ HasLifetime b.cap) (now : Span) (jitter : Jitter)
    (key : String) : b.fail now jitter key = none := by
  unfold fail
  rw [prune_of_not_fits hcap]
  rfl

theorem after_of_not_fits (hcap : ¬ HasLifetime cap) (base : Span) (past : List Call) :
    after base cap past = { base, cap } := by
  induction past with
  | nil => rfl
  | cons call past ih =>
    have hnew : ¬ HasLifetime ({ base, cap } : Backoff).cap := hcap
    rw [after, ih]
    cases call with
    | fail now jitter key =>
      simp only [Call.follow, fail_of_not_fits hnew, Option.map_none, Option.getD_none]
    | forget key => rfl
    | requeues key => rfl
    | prune now => simp only [Call.follow, prune_of_not_fits hnew, Option.getD_none]

/-! ## Delays -/

/-- The delays that may follow when there were `n` failures before. -/
structure IsDelayAfter (base cap : Span) (n : Nat) (delay : Span) : Prop where
  atLeast : min (base.nanos * 2 ^ min n 63) cap.nanos ≤ delay.nanos
  jittered : 10 * delay.nanos ≤ 11 * (base.nanos * 2 ^ min n 63)
  capped : delay.nanos ≤ cap.nanos
  full : ∀ m ≤ 63, m ≤ n → cap.nanos ≤ base.nanos * 2 ^ m → delay = cap

/-- The delay doubles from the base up to the cap, and the jitter adds at most a tenth. -/
theorem delay_bounds (b : Backoff) (n : Nat) (jitter : Jitter) :
    min (b.base.nanos * 2 ^ min n 63) b.cap.nanos ≤ (b.delay n jitter).nanos ∧
    10 * (b.delay n jitter).nanos ≤ 11 * (b.base.nanos * 2 ^ min n 63) ∧
    (b.delay n jitter).nanos ≤ b.cap.nanos := by
  have hplain : (b.plainDelay n).nanos = min (b.base.nanos * 2 ^ min n 63) b.cap.nanos := rfl
  have hdelay : (b.delay n jitter).nanos = min ((b.plainDelay n).nanos +
      (b.plainDelay n).nanos * jitter.numerator / jitter.denominator) b.cap.nanos := rfl
  rw [hdelay, hplain]
  obtain ⟨numerator, denominator, htenth⟩ := jitter
  dsimp only
  generalize b.base.nanos * 2 ^ min n 63 = full
  generalize hextra : min full b.cap.nanos * numerator / denominator = extra
  have hsmall : 10 * extra ≤ min full b.cap.nanos := by
    have hdiv : extra * denominator ≤ min full b.cap.nanos * numerator :=
      hextra ▸ Nat.div_mul_le_self _ _
    refine Nat.le_of_mul_le_mul_right (c := denominator) ?_ (by omega)
    calc 10 * extra * denominator = 10 * (extra * denominator) := Nat.mul_assoc ..
      _ ≤ 10 * (min full b.cap.nanos * numerator) := Nat.mul_le_mul_left 10 hdiv
      _ = min full b.cap.nanos * (10 * numerator) := Nat.mul_left_comm ..
      _ ≤ min full b.cap.nanos * denominator := Nat.mul_le_mul_left _ (Nat.le_of_lt htenth)
  omega

theorem isDelayAfter_delay (b : Backoff) (n : Nat) (jitter : Jitter) :
    IsDelayAfter b.base b.cap n (b.delay n jitter) := by
  obtain ⟨hleast, hjittered, hcapped⟩ := b.delay_bounds n jitter
  refine ⟨hleast, hjittered, hcapped, fun m hm hn hfull => ?_⟩
  have hpow : 2 ^ m ≤ 2 ^ min n 63 := Nat.pow_le_pow_right (by decide) (by omega)
  have hmore : b.cap.nanos ≤ b.base.nanos * 2 ^ min n 63 :=
    Nat.le_trans hfull (Nat.mul_le_mul_left _ hpow)
  have hnanos : (b.delay n jitter).nanos = b.cap.nanos := by omega
  exact congrArg Span.mk hnanos

/-- A failure is answered with the delay that follows the earlier ones of its stretch. -/
theorem Tracks.exists_fail (h : Tracks base cap past b) (hcap : HasLifetime cap) (now : Span)
    (jitter : Jitter) (key : String) :
    ∃ delay n, b.fail now jitter key = some (delay, Call.follow b (.fail now jitter key)) ∧
      stretch cap key (.fail now jitter key :: past) = n + 1 ∧ IsDelayAfter base cap n delay := by
  obtain ⟨pruned, hpruned, htracks⟩ := h.exists_prune hcap now
  have hdelay := pruned.isDelayAfter_delay (pruned.requeues key) jitter
  rw [htracks.base_eq, htracks.cap_eq] at hdelay
  refine ⟨_, pruned.requeues key, ?_, ?_, hdelay⟩
  · simp only [Call.follow, fail_of_prune hpruned, Option.map_some, Option.getD_some]
  · rw [stretch_fail, if_pos rfl, htracks.requeues_eq]

end

/--
**Independent counts with capped doubling.** After any history of calls, at any times:

- where the clock can represent twice the cap, each call has an answer. The requeues of a key are its
  failures since it was last cleared, and what is on record of it does not depend on other keys, but
  that their failures drop what is out of date. The failure of a key that is the `n + 1`st of its
  stretch is answered with a delay after `n` failures;
- where it cannot, no failure and no drop has an answer, and nothing is ever on record.
-/
theorem counts_stretches (base cap : Span) (past : List Call) :
    (HasLifetime cap →
      (∀ now, ∃ pruned, (after base cap past).prune now = some pruned) ∧
      ∀ key, (after base cap past).requeues key = stretch cap key past ∧
        (after base cap past).failures.get? key =
          (after base cap (past.filterMap (Call.concerning key))).failures.get? key ∧
        ∀ now jitter, ∃ delay n, (after base cap past).fail now jitter key =
            some (delay, after base cap (.fail now jitter key :: past)) ∧
          stretch cap key (.fail now jitter key :: past) = n + 1 ∧
          IsDelayAfter base cap n delay) ∧
    (¬ HasLifetime cap → after base cap past = { base, cap } ∧
      ∀ now, (after base cap past).prune now = none ∧
        ∀ jitter key, (after base cap past).fail now jitter key = none) := by
  constructor
  · intro hcap
    have htracks := tracks_after hcap base past
    refine ⟨fun now => ?_, fun key => ⟨htracks.requeues_eq key, ?_, fun now jitter => ?_⟩⟩
    · obtain ⟨pruned, hpruned, -⟩ := htracks.exists_prune hcap now
      exact ⟨pruned, hpruned⟩
    · rw [htracks.get?_eq, (tracks_after hcap base _).get?_eq]
      unfold onRecord?
      rw [stretch_concerning, lastFailure?_concerning]
    · exact htracks.exists_fail hcap now jitter key
  · intro hcap
    rw [after_of_not_fits hcap]
    refine ⟨rfl, fun now => ⟨prune_of_not_fits hcap now, fun jitter key => ?_⟩⟩
    exact fail_of_not_fits hcap now jitter key

/-- Two failures of one key, just as far apart as they may be. -/
def apart : List Call :=
  [.fail (.ofSeconds 2000) .none "ring/node-0", .fail .zero .none "ring/node-0"]

/-- The two failures are one stretch, which a failure of another key ends as soon as it is out of
date. -/
theorem counts_stretches_apart :
    HasLifetime (.ofSeconds 1000) ∧
    (after (.ofMillis 5) (.ofSeconds 1000) apart).requeues "ring/node-0" = 2 ∧
    (after (.ofMillis 5) (.ofSeconds 1000)
      (.fail ⟨4000000000001⟩ .none "ring/node-1" :: apart)).requeues "ring/node-0" = 0 ∧
    ∃ delay b', (after (.ofMillis 5) (.ofSeconds 1000) apart).fail (.ofSeconds 4000) .none
      "ring/node-0" = some (delay, b') ∧ 20000000 ≤ delay.nanos ∧ delay.nanos ≤ 22000000 := by
  have hcap : HasLifetime (.ofSeconds 1000) := by decide
  obtain ⟨-, hkeys⟩ := (counts_stretches (.ofMillis 5) (.ofSeconds 1000) apart).1 hcap
  obtain ⟨hcount, -, hfails⟩ := hkeys "ring/node-0"
  obtain ⟨-, hkeys'⟩ := (counts_stretches (.ofMillis 5) (.ofSeconds 1000)
    (.fail ⟨4000000000001⟩ .none "ring/node-1" :: apart)).1 hcap
  obtain ⟨hcount', -, -⟩ := hkeys' "ring/node-0"
  refine ⟨hcap, hcount.trans (by decide), hcount'.trans (by decide), ?_⟩
  obtain ⟨delay, n, hfail, hstretch, hdelay⟩ := hfails (.ofSeconds 4000) .none
  have hthird : stretch (.ofSeconds 1000) "ring/node-0"
      (.fail (.ofSeconds 4000) .none "ring/node-0" :: apart) = 3 := by decide
  obtain rfl : n = 2 := by omega
  have hleast := hdelay.atLeast
  have hmost := hdelay.jittered
  refine ⟨delay, _, hfail, ?_, ?_⟩
  · simpa [Span.ofMillis, Span.ofSeconds, Span.nanosPerMilli, Span.nanosPerSecond] using hleast
  · simp [Span.ofMillis, Span.nanosPerMilli] at hmost
    omega

end RingKeeper.Backoff
