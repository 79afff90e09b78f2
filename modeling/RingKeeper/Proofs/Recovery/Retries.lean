import Mathlib.Data.List.Basic
import RingKeeper.Proofs.Recovery.Backoff
import RingKeeper.Recovery.Controller

/-!
# How often a pod is tried again

The controller hears of the ends of recoveries, of any number of pods and in any order. All pods
share one record of failures, from which keys that are out of date are dropped whenever one fails.

1. `Watches` are the histories that the controller can go through, each with what is on record then.
   `requeuesOf` counts the requeues of a pod since it last had to await a change.
2. `OnRecord` is the invariant: a count that may still be needed is on record, and the others are
   gone or out of date. `OnRecord.follow` says what one more trial leads to.
3. `requeuesOf_run` counts along a run of failures, and `actions_eq` gives what happened to a pod in
   terms of its own trials.
4. `retries_are_bounded` puts them together.
-/

namespace RingKeeper.Recovery

/-! ## Histories -/

/-- The key of a pod tells it from all others, as namespaces have no slash. -/
theorem podKey_injective {pod pod' : String × String} (h : '/' ∉ pod.1.toList)
    (h' : '/' ∉ pod'.1.toList) (hkey : podKey pod.1 pod.2 = podKey pod'.1 pod'.2) :
    pod = pod' := by
  have hchars : pod.1.toList ++ '/' :: pod.2.toList = pod'.1.toList ++ '/' :: pod'.2.toList := by
    have hlists := congrArg String.toList hkey
    simpa [podKey, toString] using hlists
  have hns : pod.1.toList = pod'.1.toList := by
    have hleft := congrArg (List.takeWhile (· ≠ '/')) hchars
    rw [List.takeWhile_append_of_pos (by simpa using fun a ha => ne_of_mem_of_not_mem ha h),
      List.takeWhile_append_of_pos (by simpa using fun a ha => ne_of_mem_of_not_mem ha h')] at hleft
    simpa using hleft
  rw [hns] at hchars
  have hname := List.cons_inj_right '/' |>.mp (List.append_cancel_left hchars)
  exact Prod.ext (String.toList_inj.mp hns) (String.toList_inj.mp hname)

/-- A recovery of a pod that has come to its end. -/
structure Trial where
  inNamespace : String
  name : String
  result : Attempt Verdict
  /-- When it came to its end. -/
  time : Span
  jitter : Jitter

namespace Trial

def pod (t : Trial) : String × String := (t.inNamespace, t.name)

def key (t : Trial) : String := podKey t.inNamespace t.name

def failed (t : Trial) : Bool :=
  match t.result with
  | .ok _ => false
  | .error _ => true

/-- What the controller makes of the trial. -/
def follow (maxRetries : Nat) (b : Backoff) (t : Trial) : Option (Action × Backoff) :=
  afterRecovery maxRetries b t.time t.jitter t.key t.result

end Trial

def Action.isRequeue : Action → Bool
  | requeue _ => true
  | awaitChange => false

/-- A trial, and what happened next to its pod. -/
structure Noted where
  trial : Trial
  action : Action

/-- What the history, latest first, tells of one pod. -/
def own (pod : String × String) (past : List Noted) : List Noted :=
  past.filter fun n => decide (n.trial.pod = pod)

def actionsOf (pod : String × String) (past : List Noted) : List Action :=
  (own pod past).map (·.action)

/-- The number of requeues before the first action, latest first, that awaits a change. -/
def requeueRun (actions : List Action) : Nat := (actions.takeWhile (·.isRequeue)).length

/-- How often the pod was requeued since its last success or drop. -/
def requeuesOf (pod : String × String) (past : List Noted) : Nat := requeueRun (actionsOf pod past)

/-- The time of the last trial. -/
def clock (past : List Noted) : Span := (past.head?.map (·.trial.time)).getD .zero

/-- Twice the cap of the backoff. -/
def lifetime : Span := ⟨2 * Backoff.standard.cap.nanos⟩

/-- The trials that may come next: time does not go back, and a pod that was requeued does not take
longer than the lifetime to fail again. -/
structure Admissible (past : List Noted) (t : Trial) : Prop where
  plain : '/' ∉ t.inNamespace.toList
  later : (clock past).nanos ≤ t.time.nanos
  timely : t.failed = true → ∀ n, (own t.pod past).head? = some n → n.action.isRequeue = true →
    t.time.nanos - n.trial.time.nanos ≤ lifetime.nanos

/-- The histories, latest first, that the controller can go through, and what is on record then. -/
inductive Watches (maxRetries : Nat) : Backoff → List Noted → Prop where
  | start : Watches maxRetries .standard []
  | step {b b' : Backoff} {past : List Noted} {action : Action}
    (h : Watches maxRetries b past) (t : Trial) (ht : Admissible past t)
    (hfollow : t.follow maxRetries b = some (action, b')) :
    Watches maxRetries b' (⟨t, action⟩ :: past)

section
variable {pod : String × String} {past : List Noted} {n : Noted}

theorem own_cons_self (h : n.trial.pod = pod) : own pod (n :: past) = n :: own pod past :=
  List.filter_cons_of_pos (decide_eq_true h)

theorem own_cons_of_ne (h : n.trial.pod ≠ pod) : own pod (n :: past) = own pod past :=
  List.filter_cons_of_neg (by simp [h])

theorem requeuesOf_cons_of_ne (h : n.trial.pod ≠ pod) :
    requeuesOf pod (n :: past) = requeuesOf pod past := by
  unfold requeuesOf actionsOf
  rw [own_cons_of_ne h]

theorem requeuesOf_cons_requeue (h : n.trial.pod = pod) (hn : n.action.isRequeue = true) :
    requeuesOf pod (n :: past) = requeuesOf pod past + 1 := by
  unfold requeuesOf actionsOf requeueRun
  rw [own_cons_self h, List.map_cons, List.takeWhile_cons_of_pos hn, List.length_cons]

theorem requeuesOf_cons_awaitChange (h : n.trial.pod = pod) (hn : n.action.isRequeue ≠ true) :
    requeuesOf pod (n :: past) = 0 := by
  unfold requeuesOf actionsOf requeueRun
  rw [own_cons_self h, List.map_cons, List.takeWhile_cons_of_neg hn, List.length_nil]

/-- A pod with requeues to count was requeued at its last trial. -/
theorem exists_of_requeuesOf_ne_zero (h : requeuesOf pod past ≠ 0) :
    ∃ n, (own pod past).head? = some n ∧ n.action.isRequeue = true := by
  unfold requeuesOf actionsOf requeueRun at h
  cases hown : own pod past with
  | nil =>
    rw [hown] at h
    exact absurd rfl h
  | cons n ns =>
    refine ⟨n, rfl, ?_⟩
    by_contra hn
    rw [hown, List.map_cons, List.takeWhile_cons_of_neg hn] at h
    exact h rfl

end

/-! ## The invariant -/

/-- What happens next to the pod of a trial, by the history alone. -/
def decision (maxRetries : Nat) (past : List Noted) (t : Trial) : Action :=
  if t.failed = true ∧ requeuesOf t.pod past < maxRetries then
    .requeue (Backoff.standard.delay (requeuesOf t.pod past) t.jitter)
  else .awaitChange

/-- What is on record of one pod after a history. -/
structure PodOnRecord (b : Backoff) (past : List Noted) (pod : String × String) : Prop where
  forgotten : requeuesOf pod past = 0 → b.failures.get? (podKey pod.1 pod.2) = none
  kept : ∀ n, (own pod past).head? = some n → n.action.isRequeue = true →
    (clock past).nanos - n.trial.time.nanos ≤ lifetime.nanos →
    b.failures.get? (podKey pod.1 pod.2) = some ⟨requeuesOf pod past, n.trial.time⟩

structure OnRecord (maxRetries : Nat) (b : Backoff) (past : List Noted) : Prop where
  base : b.base = Backoff.standard.base
  cap : b.cap = Backoff.standard.cap
  bounded : b.CountsUpTo maxRetries
  pods : ∀ pod, '/' ∉ pod.1.toList → PodOnRecord b past pod

section
variable {maxRetries : Nat} {b b' : Backoff} {past : List Noted} {t : Trial}
  {pod : String × String} {action : Action}

theorem onRecord_start (maxRetries : Nat) : OnRecord maxRetries .standard [] where
  base := rfl
  cap := rfl
  bounded _ he := nomatch he
  pods _ _ := ⟨fun _ => rfl, fun _ h => nomatch h⟩

theorem lifetime?_eq (h : b.cap = Backoff.standard.cap) : b.lifetime? = some lifetime := by
  unfold Backoff.lifetime?
  rw [h]
  decide

theorem delay_eq (hbase : b.base = Backoff.standard.base) (hcap : b.cap = Backoff.standard.cap)
    (n : Nat) (jitter : Jitter) : b.delay n jitter = Backoff.standard.delay n jitter := by
  unfold Backoff.delay Backoff.plainDelay
  rw [hbase, hcap]

/-- When a trial fails, the requeues of its pod are on record. -/
theorem OnRecord.get?_key (h : OnRecord maxRetries b past) (ht : Admissible past t)
    (hfailed : t.failed = true) :
    requeuesOf t.pod past = 0 ∧ b.failures.get? t.key = none ∨
      ∃ last, t.time.nanos - last.nanos ≤ lifetime.nanos ∧
        b.failures.get? t.key = some ⟨requeuesOf t.pod past, last⟩ := by
  have hpod := h.pods t.pod ht.plain
  by_cases hzero : requeuesOf t.pod past = 0
  · exact Or.inl ⟨hzero, hpod.forgotten hzero⟩
  · obtain ⟨n, hn, hrequeue⟩ := exists_of_requeuesOf_ne_zero hzero
    have hrecent := ht.timely hfailed n hn hrequeue
    have hlater := ht.later
    exact Or.inr ⟨n.trial.time, hrecent, hpod.kept n hn hrequeue (by omega)⟩

theorem OnRecord.requeues_eq (h : OnRecord maxRetries b past) (ht : Admissible past t)
    (hfailed : t.failed = true) : b.requeues t.key = requeuesOf t.pod past := by
  rcases h.get?_key ht hfailed with ⟨hzero, hnone⟩ | ⟨last, -, hsome⟩
  · rw [hzero, Backoff.requeues_of_none hnone]
  · exact Backoff.requeues_of_some hsome

/-- The pods that a trial is not about stay on record, as long as they are not out of date. -/
theorem PodOnRecord.other (h : PodOnRecord b past pod) (ht : Admissible past t)
    (hne : t.pod ≠ pod)
    (hnone : b.failures.get? (podKey pod.1 pod.2) = none →
      b'.failures.get? (podKey pod.1 pod.2) = none)
    (hsome : ∀ f, b.failures.get? (podKey pod.1 pod.2) = some f →
      t.time.nanos - f.last.nanos ≤ lifetime.nanos →
      b'.failures.get? (podKey pod.1 pod.2) = some f) :
    PodOnRecord b' (⟨t, action⟩ :: past) pod := by
  refine ⟨fun hzero => ?_, fun n hn hrequeue hrecent => ?_⟩
  · rw [requeuesOf_cons_of_ne hne] at hzero
    exact hnone (h.forgotten hzero)
  · rw [own_cons_of_ne hne] at hn
    rw [requeuesOf_cons_of_ne hne]
    have hlater := ht.later
    have hclock : (clock (⟨t, action⟩ :: past)).nanos = t.time.nanos := rfl
    have hrecent' : t.time.nanos - n.trial.time.nanos ≤ lifetime.nanos := by omega
    exact hsome _ (h.kept n hn hrequeue (by omega)) hrecent'

/-- A pod that is to await a change is forgotten. -/
theorem OnRecord.forget (h : OnRecord maxRetries b past) (ht : Admissible past t) :
    OnRecord maxRetries (b.forget t.key) (⟨t, .awaitChange⟩ :: past) where
  base := h.base
  cap := h.cap
  bounded := h.bounded.forget t.key
  pods pod hplain := by
    by_cases hpod : t.pod = pod
    · subst hpod
      have hown : own t.pod (⟨t, .awaitChange⟩ :: past) = ⟨t, .awaitChange⟩ :: own t.pod past :=
        own_cons_self rfl
      refine ⟨fun _ => b.get?_forget_self t.key, fun n hn hrequeue => ?_⟩
      rw [hown] at hn
      cases hn
      cases hrequeue
    · have hkey : t.key ≠ podKey pod.1 pod.2 :=
        fun hkey => hpod (podKey_injective ht.plain hplain hkey)
      refine (h.pods pod hplain).other ht hpod (fun hnone => ?_) fun f hf _ => ?_
      · rw [b.get?_forget_of_ne hkey, hnone]
      · rw [b.get?_forget_of_ne hkey, hf]

/-- A pod that is requeued has one more requeue on record. -/
theorem OnRecord.fail (h : OnRecord maxRetries b past) (ht : Admissible past t)
    (hfailed : t.failed = true) (hfew : requeuesOf t.pod past < maxRetries) {delay : Span}
    (hdelay : delay = Backoff.standard.delay (requeuesOf t.pod past) t.jitter) :
    ∃ b', b.fail t.time t.jitter t.key = some (delay, b') ∧
      OnRecord maxRetries b' (⟨t, .requeue delay⟩ :: past) := by
  obtain ⟨pruned, hpruned⟩ : ∃ pruned, b.prune t.time = some pruned := by
    unfold Backoff.prune
    rw [lifetime?_eq h.cap]
    exact ⟨_, rfl⟩
  have hbase : pruned.base = Backoff.standard.base := by
    obtain ⟨-, -, rfl⟩ := Backoff.prune_eq hpruned
    exact h.base
  have hcap : pruned.cap = Backoff.standard.cap := by
    obtain ⟨-, -, rfl⟩ := Backoff.prune_eq hpruned
    exact h.cap
  -- the count of the failing pod itself is not out of date
  have hcount : pruned.requeues t.key = requeuesOf t.pod past := by
    rcases h.get?_key ht hfailed with ⟨hzero, hnone⟩ | ⟨last, hrecent, hsome⟩
    · rw [hzero, Backoff.requeues_of_none (Backoff.get?_prune_of_none hpruned hnone)]
    · exact Backoff.requeues_of_some
        (Backoff.get?_prune_of_recent hpruned (lifetime?_eq h.cap) hsome hrecent)
  have hbelow : pruned.requeues t.key < maxRetries := by
    rw [hcount]
    exact hfew
  refine ⟨pruned.record t.time t.key, ?_, hbase, hcap,
    (h.bounded.prune hpruned).record hbelow t.time, fun pod hplain => ?_⟩
  · rw [Backoff.fail_of_prune hpruned, hcount, delay_eq hbase hcap, hdelay]
  by_cases hpod : t.pod = pod
  · subst hpod
    have hown : own t.pod (⟨t, .requeue delay⟩ :: past) = ⟨t, .requeue delay⟩ :: own t.pod past :=
      own_cons_self rfl
    have hmore : requeuesOf t.pod (⟨t, .requeue delay⟩ :: past) = requeuesOf t.pod past + 1 :=
      requeuesOf_cons_requeue rfl rfl
    refine ⟨fun hzero => ?_, fun n hn _ _ => ?_⟩
    · rw [hmore] at hzero
      cases hzero
    · rw [hown] at hn
      cases hn
      rw [hmore, ← hcount]
      exact pruned.get?_record_self t.time t.key
  · have hkey : t.key ≠ podKey pod.1 pod.2 :=
      fun hkey => hpod (podKey_injective ht.plain hplain hkey)
    refine (h.pods pod hplain).other ht hpod (fun hnone => ?_) fun f hf hrecent => ?_
    · rw [Backoff.get?_record_of_ne _ _ hkey]
      exact Backoff.get?_prune_of_none hpruned hnone
    · rw [Backoff.get?_record_of_ne _ _ hkey]
      exact Backoff.get?_prune_of_recent hpruned (lifetime?_eq h.cap) hf hrecent

/-- What one more trial leads to. -/
theorem OnRecord.follow (h : OnRecord maxRetries b past) (ht : Admissible past t) :
    ∃ b', t.follow maxRetries b = some (decision maxRetries past t, b') ∧
      OnRecord maxRetries b' (⟨t, decision maxRetries past t⟩ :: past) := by
  cases hresult : t.result with
  | ok verdict =>
    have hfailed : t.failed ≠ true := by
      unfold Trial.failed
      rw [hresult]
      exact Bool.false_ne_true
    have hdecision : decision maxRetries past t = .awaitChange :=
      if_neg fun hboth => hfailed hboth.1
    rw [hdecision]
    refine ⟨b.forget t.key, ?_, h.forget ht⟩
    unfold Trial.follow
    rw [hresult]
    rfl
  | error f =>
    have hfailed : t.failed = true := by
      unfold Trial.failed
      rw [hresult]
    have hfollow : t.follow maxRetries b = onFailure maxRetries b t.time t.jitter t.key := by
      unfold Trial.follow
      rw [hresult]
      rfl
    rw [hfollow]
    unfold onFailure
    rw [h.requeues_eq ht hfailed]
    by_cases hfew : requeuesOf t.pod past < maxRetries
    · have hdecision : decision maxRetries past t =
          .requeue (Backoff.standard.delay (requeuesOf t.pod past) t.jitter) :=
        if_pos ⟨hfailed, hfew⟩
      obtain ⟨b', hfail, hrecord⟩ := h.fail ht hfailed hfew rfl
      rw [hdecision, if_pos hfew, hfail]
      exact ⟨b', rfl, hrecord⟩
    · have hdecision : decision maxRetries past t = .awaitChange :=
        if_neg fun hboth => hfew hboth.2
      rw [hdecision, if_neg hfew]
      exact ⟨b.forget t.key, rfl, h.forget ht⟩

theorem Watches.onRecord (h : Watches maxRetries b past) : OnRecord maxRetries b past := by
  induction h with
  | start => exact onRecord_start maxRetries
  | step h t ht hfollow ih =>
    obtain ⟨b', hfollow', hrecord⟩ := ih.follow ht
    rw [hfollow] at hfollow'
    cases hfollow'
    exact hrecord

/-- Each action of a history was decided by what came before it. -/
theorem Watches.action_eq {n : Noted} (h : Watches maxRetries b (n :: past)) :
    n.action = decision maxRetries past n.trial ∧ Admissible past n.trial ∧
      ∃ b', Watches maxRetries b' past := by
  cases h with
  | step h t ht hfollow =>
    obtain ⟨b', hfollow', -⟩ := h.onRecord.follow ht
    rw [hfollow] at hfollow'
    cases hfollow'
    exact ⟨rfl, ht, _, h⟩

end

/-! ## The trials of one pod -/

section
variable {maxRetries : Nat} {b : Backoff} {past run earlier : List Noted} {pod : String × String}

theorem succ_mod_succ (n m : Nat) :
    (n + 1) % (m + 1) = if n % (m + 1) < m then n % (m + 1) + 1 else 0 := by
  have hlt : n % (m + 1) < m + 1 := Nat.mod_lt n (Nat.succ_pos m)
  rw [← Nat.mod_add_mod]
  split
  · rename_i h
    exact Nat.mod_eq_of_lt (by omega)
  · rename_i h
    have heq : n % (m + 1) + 1 = m + 1 := by omega
    rw [heq, Nat.mod_self]

/-- In a run of failures the requeues are counted up to the limit, again and again. -/
theorem requeuesOf_run (h : Watches maxRetries b (run ++ earlier))
    (hfailed : ∀ n ∈ own pod run, n.trial.failed = true) (hfirst : requeuesOf pod earlier = 0) :
    requeuesOf pod (run ++ earlier) = (own pod run).length % (maxRetries + 1) := by
  induction run generalizing b with
  | nil => exact hfirst
  | cons n run ih =>
    obtain ⟨haction, -, b', hrest⟩ := h.action_eq
    by_cases hpod : n.trial.pod = pod
    · rw [own_cons_self hpod] at hfailed ⊢
      have hcount := ih hrest fun m hm => hfailed m (List.mem_cons_of_mem n hm)
      have hn := hfailed n List.mem_cons_self
      rw [List.cons_append, List.length_cons, succ_mod_succ, ← hcount]
      unfold decision at haction
      rw [hpod] at haction
      split
      · rename_i hfew
        rw [if_pos ⟨hn, hfew⟩] at haction
        exact requeuesOf_cons_requeue hpod (by rw [haction]; rfl)
      · rename_i hmany
        rw [if_neg fun hboth => hmany hboth.2] at haction
        exact requeuesOf_cons_awaitChange hpod (by rw [haction]; exact Bool.false_ne_true)
    · rw [own_cons_of_ne hpod] at hfailed ⊢
      rw [List.cons_append, requeuesOf_cons_of_ne hpod]
      exact ih hrest hfailed

/-- The actions, latest first, that follow when these trials of a pod fail or succeed. -/
def actionsFor (maxRetries : Nat) : List (Bool × Jitter) → List Action
  | [] => []
  | (failed, jitter) :: rest =>
    let before := actionsFor maxRetries rest
    (if failed = true ∧ requeueRun before < maxRetries then
      .requeue (Backoff.standard.delay (requeueRun before) jitter)
    else .awaitChange) :: before

/-- Whether each trial of the pod failed, with the jitter that was drawn for it. -/
def outcomesOf (pod : String × String) (past : List Noted) : List (Bool × Jitter) :=
  (own pod past).map fun n => (n.trial.failed, n.trial.jitter)

theorem actions_eq (h : Watches maxRetries b past) (pod : String × String) :
    actionsOf pod past = actionsFor maxRetries (outcomesOf pod past) := by
  induction past generalizing b with
  | nil => rfl
  | cons n past ih =>
    obtain ⟨haction, -, b', hrest⟩ := h.action_eq
    by_cases hpod : n.trial.pod = pod
    · have hdecision : decision maxRetries past n.trial =
          if n.trial.failed = true ∧ requeueRun (actionsOf pod past) < maxRetries then
            .requeue (Backoff.standard.delay (requeueRun (actionsOf pod past)) n.trial.jitter)
          else .awaitChange := by
        unfold decision requeuesOf
        rw [hpod]
      unfold actionsOf outcomesOf
      rw [own_cons_self hpod, List.map_cons, List.map_cons, haction, hdecision]
      unfold actionsFor
      rw [← outcomesOf, ← actionsOf, ← ih hrest]
    · unfold actionsOf outcomesOf
      rw [own_cons_of_ne hpod]
      exact ih hrest

end

/-! ## Bounded retries -/

theorem isRequeue_decision (maxRetries : Nat) (past : List Noted) (t : Trial) :
    (decision maxRetries past t).isRequeue = true ↔
      t.failed = true ∧ requeuesOf t.pod past < maxRetries := by
  unfold decision
  split
  · rename_i h
    exact ⟨fun _ => h, fun _ => rfl⟩
  · rename_i h
    exact ⟨fun hfalse => (nomatch hfalse), fun hboth => absurd hboth h⟩

theorem eq_awaitChange {action : Action} (h : action.isRequeue ≠ true) : action = .awaitChange := by
  cases action with
  | requeue delay => exact absurd rfl h
  | awaitChange => rfl

/--
**Bounded retries.** After any history of trials, of whatever pods:

- the controller knows what to do next, and requeues a pod exactly if its trial failed and it was
  requeued fewer than `maxRetries` times since its last success or drop; else the pod awaits a
  change, and nothing of it is on record any more;
- no count on record is beyond `maxRetries`, so a width that holds `maxRetries` holds every count;
- in a run of failures of a pod, every `maxRetries + 1`st is a drop and all others are requeues;
- what happens to a pod depends on its own trials alone.
-/
theorem retries_are_bounded (maxRetries : Nat) {b : Backoff} {past : List Noted}
    (h : Watches maxRetries b past) :
    (∀ t, Admissible past t → ∃ action b', t.follow maxRetries b = some (action, b') ∧
      (action.isRequeue = true ↔ t.failed = true ∧ requeuesOf t.pod past < maxRetries) ∧
      (action.isRequeue ≠ true → action = .awaitChange ∧ b'.requeues t.key = 0)) ∧
    (∀ key, b.requeues key ≤ maxRetries) ∧
    (∀ n run earlier, past = n :: (run ++ earlier) → requeuesOf n.trial.pod earlier = 0 →
      (∀ m ∈ own n.trial.pod (n :: run), m.trial.failed = true) →
      (n.action = .awaitChange ↔
        (own n.trial.pod run).length % (maxRetries + 1) = maxRetries)) ∧
    ∀ b' past', Watches maxRetries b' past' → ∀ pod, outcomesOf pod past = outcomesOf pod past' →
      actionsOf pod past = actionsOf pod past' := by
  refine ⟨fun t ht => ?_, h.onRecord.bounded.requeues_le, ?_, ?_⟩
  · obtain ⟨b', hfollow, hrecord⟩ := h.onRecord.follow ht
    refine ⟨_, b', hfollow, isRequeue_decision maxRetries past t, fun hawaits => ?_⟩
    have hzero : requeuesOf t.pod (⟨t, decision maxRetries past t⟩ :: past) = 0 :=
      requeuesOf_cons_awaitChange rfl hawaits
    have hnone := (hrecord.pods t.pod ht.plain).forgotten hzero
    exact ⟨eq_awaitChange hawaits, Backoff.requeues_of_none hnone⟩
  · rintro n run earlier rfl hfirst hfailed
    rw [own_cons_self rfl] at hfailed
    obtain ⟨haction, -, b', hrest⟩ := h.action_eq
    have hn := hfailed n List.mem_cons_self
    have hcount := requeuesOf_run hrest (fun m hm => hfailed m (List.mem_cons_of_mem n hm)) hfirst
    have hlt : (own n.trial.pod run).length % (maxRetries + 1) < maxRetries + 1 :=
      Nat.mod_lt _ (Nat.succ_pos maxRetries)
    rw [← hcount] at hlt ⊢
    rw [haction]
    unfold decision
    split
    · rename_i hboth
      exact ⟨fun hawaits => (nomatch hawaits), fun heq => absurd hboth.2 (by omega)⟩
    · rename_i hboth
      have hmany : ¬ requeuesOf n.trial.pod (run ++ earlier) < maxRetries :=
        fun hfew => hboth ⟨hn, hfew⟩
      exact ⟨fun _ => by omega, fun _ => rfl⟩
  · intro b' past' h' pod hsame
    rw [actions_eq h pod, actions_eq h' pod, hsame]

/-- A recovery that timed out after some seconds. -/
def timedOut (name : String) (seconds : Nat) : Trial :=
  ⟨"ring", name, .error (.message "timed out"), .ofSeconds seconds, .none⟩

/-- Two pods fail in turn, the first of them again just within the lifetime. -/
theorem retries_are_bounded_neighbours :
    ∃ b past, Watches 1 b past ∧ Admissible past (timedOut "node-0" 2000) ∧
      requeuesOf ("ring", "node-0") past = 1 ∧ requeuesOf ("ring", "node-1") past = 1 ∧
      ∃ b', (timedOut "node-0" 2000).follow 1 b = some (.awaitChange, b') := by
  have hplain : '/' ∉ "ring".toList := by decide
  have hfirst : Admissible [] (timedOut "node-0" 0) :=
    ⟨hplain, Nat.le_refl _, fun _ n hn => nomatch hn⟩
  obtain ⟨b₁, hb₁⟩ : ∃ b, (timedOut "node-0" 0).follow 1 .standard =
    some (.requeue (.ofMillis 5), b) := ⟨_, rfl⟩
  have hsecond : Admissible [⟨timedOut "node-0" 0, .requeue (.ofMillis 5)⟩]
      (timedOut "node-1" 1) := by
    refine ⟨hplain, by decide, fun _ n hn => ?_⟩
    cases hn
  obtain ⟨b₂, hb₂⟩ : ∃ b, (timedOut "node-1" 1).follow 1 b₁ =
      some (.requeue (.ofMillis 5), b) := by
    cases hb₁
    exact ⟨_, rfl⟩
  have hwatches := (Watches.start.step _ hfirst hb₁).step _ hsecond hb₂
  have hthird : Admissible [⟨timedOut "node-1" 1, .requeue (.ofMillis 5)⟩,
      ⟨timedOut "node-0" 0, .requeue (.ofMillis 5)⟩] (timedOut "node-0" 2000) := by
    refine ⟨hplain, by decide, fun _ n hn _ => ?_⟩
    cases hn
    decide
  obtain ⟨action, b', hfollow, hrequeue, hawaits⟩ :=
    (retries_are_bounded 1 hwatches).1 _ hthird
  have hdropped : action.isRequeue ≠ true := fun h => absurd (hrequeue.mp h).2 (by decide)
  obtain ⟨rfl, hzero⟩ := hawaits hdropped
  exact ⟨b₂, _, hwatches, hthird, by decide, by decide, b', hfollow⟩

end RingKeeper.Recovery
