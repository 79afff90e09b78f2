import RingKeeper.Recovery.Cluster
import RingKeeper.Recovery.StartOver

/-!
# Interrupted recoveries

A call to the cluster may fail, and one that was to change something may have done so nevertheless.

1. `Faulty` is a cluster whose next calls fail as scheduled.
2. `StopsAtFailure` says of a procedure that it ends with a fault as soon as a call fails. The whole
   recovery does (`stopsAtFailure_recover`); its diagnosis, besides, changes nothing (`LooksUp`).
3. `Passes` are the clusters that a procedure passes through, one call after the other, as long as
   none fails. `run_interrupted` says that a procedure that stops at failures either meets none, or
   leaves a cluster behind that it would have passed through.
-/

namespace RingKeeper.Recovery

variable {α β : Type}

/-! ## Runs without failures -/

namespace Cluster

theorem run_ask (c : Cluster) (q : Question) (next : Answer q → Procedure α) :
    c.run (.ask q next) = (c.answer q).2.run (next (c.answer q).1) := rfl

theorem run_request (c : Cluster) (q : Question) : c.run (ask q) = c.answer q := rfl

theorem run_bind (c : Cluster) (p : Procedure α) (k : α → Procedure β) :
    c.run (p >>= k) = (c.run p).2.run (k (c.run p).1) := by
  induction p generalizing c with
  | done a => rfl
  | ask q next ih => exact ih (c.answer q).1 (c.answer q).2

end Cluster

/-- The clusters that a procedure passes through, from the first one to the last. -/
def Passes : Procedure α → Cluster → Cluster → Prop
  | .done _, c, c' => c' = c
  | .ask q next, c, c' => c' = c ∨ Passes (next (c.answer q).1) (c.answer q).2 c'

theorem passes_start (p : Procedure α) (c : Cluster) : Passes p c c := by
  cases p with
  | done a => rfl
  | ask q next => exact Or.inl rfl

theorem passes_bind {p : Procedure α} {k : α → Procedure β} {c c' : Cluster}
    (h : Passes (p >>= k) c c') : Passes p c c' ∨ Passes (k (c.run p).1) (c.run p).2 c' := by
  induction p generalizing c with
  | done a => exact Or.inr h
  | ask q next ih =>
    rcases h with rfl | h
    · exact Or.inl (Or.inl rfl)
    · exact (ih _ h).imp_left Or.inr

/-! ## Procedures that only look things up -/

def OnlyLooksUp : Procedure α → Prop
  | .done _ => True
  | .ask q next => q.changes = false ∧ ∀ x, OnlyLooksUp (next x)

theorem OnlyLooksUp.bind {p : Procedure α} {k : α → Procedure β} (hp : OnlyLooksUp p)
    (hk : ∀ a, OnlyLooksUp (k a)) : OnlyLooksUp (p >>= k) := by
  induction p with
  | done a => exact hk a
  | ask q next ih => exact ⟨hp.1, fun x => ih x (hp.2 x)⟩

theorem answer_of_not_changes {q : Question} (h : q.changes = false) (c : Cluster) :
    (c.answer q).2 = c := by
  cases q <;> first | rfl | cases h

theorem OnlyLooksUp.passes {p : Procedure α} (hp : OnlyLooksUp p) {c c' : Cluster}
    (h : Passes p c c') : c' = c := by
  induction p generalizing c with
  | done a => exact h
  | ask q next ih =>
    rcases h with h | h
    · exact h
    · exact (ih _ (hp.2 _) h).trans (answer_of_not_changes hp.1 c)

/-! ## Procedures that stop at a failure -/

/-- Once a call fails, the procedure ends with a fault. -/
def StopsAtFailure : Procedure (Attempt α) → Prop
  | .done _ => True
  | .ask q next => (∀ f, ∃ f', next (failed f q) = .done (.error f')) ∧
      ∀ x, StopsAtFailure (next x)

theorem StopsAtFailure.bind {p : Procedure (Attempt α)}
    {k : Attempt α → Procedure (Attempt β)} (hp : StopsAtFailure p)
    (hfails : ∀ f, ∃ f', k (.error f) = .done (.error f'))
    (hgoesOn : ∀ a, StopsAtFailure (k (.ok a))) : StopsAtFailure (p >>= k) := by
  induction p with
  | done a =>
    cases a with
    | ok a => exact hgoesOn a
    | error f =>
      obtain ⟨f', hf⟩ := hfails f
      show StopsAtFailure (k (.error f))
      rw [hf]
      trivial
  | ask q next ih =>
    refine ⟨fun f => ?_, fun x => ih x (hp.2 x)⟩
    obtain ⟨f', hf⟩ := hp.1 f
    obtain ⟨f'', hf'⟩ := hfails f'
    refine ⟨f'', ?_⟩
    show next (failed f q) >>= k = _
    rw [hf]
    exact hf'

/-! ## The diagnosis -/

/-- A procedure that only looks things up, and stops at a failure. -/
structure LooksUp (p : Procedure (Attempt α)) : Prop where
  onlyLooksUp : OnlyLooksUp p
  stopsAtFailure : StopsAtFailure p

theorem looksUp_done (a : Attempt α) : LooksUp (.done a) := ⟨trivial, trivial⟩

theorem LooksUp.bind {p : Procedure (Attempt α)} {k : Attempt α → Procedure (Attempt β)}
    (hp : LooksUp p) (hfails : ∀ f, ∃ f', k (.error f) = .done (.error f'))
    (hgoesOn : ∀ a, LooksUp (k (.ok a))) : LooksUp (p >>= k) := by
  refine ⟨hp.onlyLooksUp.bind fun x => ?_,
    hp.stopsAtFailure.bind hfails fun a => (hgoesOn a).stopsAtFailure⟩
  cases x with
  | ok a => exact (hgoesOn a).onlyLooksUp
  | error f =>
    obtain ⟨f', hf⟩ := hfails f
    rw [hf]
    trivial

theorem looksUp_getVolume (volume : String) : LooksUp (ask (.getVolume volume)) :=
  ⟨⟨rfl, fun _ => trivial⟩, ⟨fun f => ⟨f, rfl⟩, fun _ => trivial⟩⟩

theorem looksUp_hostExists (host : String) : LooksUp (ask (.hostExists host)) :=
  ⟨⟨rfl, fun _ => trivial⟩, ⟨fun f => ⟨f, rfl⟩, fun _ => trivial⟩⟩

theorem looksUp_getClaim (inNamespace claim : String) :
    LooksUp (ask (.getClaim inNamespace claim)) :=
  ⟨⟨rfl, fun _ => trivial⟩, ⟨fun f => ⟨f, rfl⟩, fun _ => trivial⟩⟩

theorem looksUp_volumeDefect? (volume : String) : LooksUp (volumeDefect? volume) := by
  unfold volumeDefect?
  refine (looksUp_getVolume volume).bind (fun f => ⟨f, rfl⟩) fun found => ?_
  cases found with
  | none => exact looksUp_done _
  | some v =>
    dsimp only
    cases v.requiredHost? with
    | none => exact looksUp_done _
    | some host =>
      refine (looksUp_hostExists host).bind (fun f => ⟨f, rfl⟩) fun found => ?_
      cases found <;> exact looksUp_done _

theorem looksUp_claimDefect? (inNamespace claim : String) :
    LooksUp (claimDefect? inNamespace claim) := by
  unfold claimDefect?
  refine (looksUp_getClaim inNamespace claim).bind (fun f => ⟨f, rfl⟩) fun found => ?_
  cases found with
  | none => exact looksUp_done _
  | some c =>
    dsimp only
    split
    · split
      · exact looksUp_volumeDefect? _
      · exact looksUp_done _
    · exact looksUp_done _
    · exact looksUp_done _

theorem looksUp_firstDefect (inNamespace : String) (claims : List String) :
    LooksUp (firstDefect inNamespace claims) := by
  induction claims with
  | nil => exact looksUp_done _
  | cons claim claims ih =>
    refine (looksUp_claimDefect? inNamespace claim).bind (fun f => ⟨f, rfl⟩) fun found => ?_
    cases found with
    | none => exact ih
    | some verdict => exact looksUp_done _

theorem looksUp_diagnose (pod : Pod) (evictionLabel : Option String) :
    LooksUp (diagnose pod evictionLabel) := by
  unfold diagnose
  split
  · exact looksUp_done _
  · split
    · exact looksUp_firstDefect _ _
    · exact looksUp_done _

theorem looksUp_findClaims (inNamespace : String) (names : List String) :
    LooksUp (findClaims inNamespace names) := by
  induction names with
  | nil => exact looksUp_done _
  | cons name names ih =>
    refine (looksUp_getClaim inNamespace name).bind (fun f => ⟨f, rfl⟩) fun found => ?_
    exact ih.bind (fun f => ⟨f, rfl⟩) fun claims => looksUp_done _

/-! ## The clean start -/

theorem stopsAtFailure_detach (volume : String) : StopsAtFailure (detach volume) := by
  refine ⟨fun f => ⟨f, rfl⟩, fun x => ?_⟩
  cases x with
  | error f => trivial
  | ok found =>
    cases found with
    | none => trivial
    | some v =>
      show StopsAtFailure (if v.claimRef?.isSome then ask (.replaceVolume v.unclaimed) else _)
      split
      · exact ⟨fun f => ⟨f, rfl⟩, fun _ => trivial⟩
      · trivial

theorem stopsAtFailure_forAll {step : β → Procedure (Attempt Unit)}
    (hstep : ∀ b, StopsAtFailure (step b)) (bs : List β) : StopsAtFailure (forAll step bs) := by
  induction bs with
  | nil => trivial
  | cons b bs ih => exact (hstep b).bind (fun f => ⟨f, rfl⟩) fun _ => ih

theorem stopsAtFailure_startOver (pod : Pod) : StopsAtFailure (startOver pod) := by
  refine (looksUp_findClaims _ _).stopsAtFailure.bind (fun f => ⟨f, rfl⟩) fun claims => ?_
  refine (stopsAtFailure_forAll stopsAtFailure_detach _).bind (fun f => ⟨f, rfl⟩) fun _ => ?_
  refine (stopsAtFailure_forAll (fun claim => ?_) _).bind (fun f => ⟨f, rfl⟩) fun _ => ?_
  · exact ⟨fun f => ⟨f, rfl⟩, fun _ => trivial⟩
  · exact ⟨fun f => ⟨f, rfl⟩, fun _ => trivial⟩

theorem stopsAtFailure_recover (evictionLabel : Option String) (inNamespace name : String) :
    StopsAtFailure (recover evictionLabel inNamespace name) := by
  refine ⟨fun f => ⟨f, rfl⟩, fun x => ?_⟩
  cases x with
  | error f => trivial
  | ok found =>
    cases found with
    | none => trivial
    | some pod =>
      have hdiagnose := (looksUp_diagnose pod evictionLabel).stopsAtFailure
      refine hdiagnose.bind (fun f => ⟨_, rfl⟩) fun verdict => ?_
      show StopsAtFailure (if verdict.needsRecovery then _ else _)
      split
      · exact (stopsAtFailure_startOver pod).bind (fun f => ⟨_, rfl⟩) fun _ => trivial
      · trivial

/-! ## Runs with failures -/

/-- The failure of a call. -/
structure Failure where
  fault : Fault
  /-- Whether the call took effect nevertheless. -/
  applied : Bool

structure Faulty where
  cluster : Cluster
  /-- Which of the next calls fail, in order; the calls after these do not. -/
  schedule : List (Option Failure)

namespace Faulty

def answer (s : Faulty) (q : Question) : Answer q × Faulty :=
  match s.schedule with
  | some failure :: schedule =>
    (failed failure.fault q,
      ⟨if failure.applied then (s.cluster.answer q).2 else s.cluster, schedule⟩)
  | schedule => ((s.cluster.answer q).1, ⟨(s.cluster.answer q).2, schedule.tail⟩)

/-- Runs a procedure on a cluster whose calls fail as scheduled. -/
def run (s : Faulty) (p : Procedure α) : α × Faulty :=
  (show StateM Faulty α from p.perform fun q s => s.answer q).run s

/-- How many calls are still to fail. -/
def failures (s : Faulty) : Nat := s.schedule.countP Option.isSome

theorem run_done (s : Faulty) (a : α) : s.run (.done a) = (a, s) := rfl

theorem run_ask (s : Faulty) (q : Question) (next : Answer q → Procedure α) :
    s.run (.ask q next) = (s.answer q).2.run (next (s.answer q).1) := rfl

/-- A call is answered as if nothing ever failed, or it is one of those that were to fail. -/
theorem answer_cases (s : Faulty) (q : Question) :
    ((s.answer q).1 = (s.cluster.answer q).1 ∧ (s.answer q).2.cluster = (s.cluster.answer q).2 ∧
      (s.answer q).2.failures = s.failures) ∨
    ∃ f, (s.answer q).1 = failed f q ∧ (s.answer q).2.failures < s.failures ∧
      ((s.answer q).2.cluster = s.cluster ∨ (s.answer q).2.cluster = (s.cluster.answer q).2) := by
  obtain ⟨c, schedule⟩ := s
  cases schedule with
  | nil => exact Or.inl ⟨rfl, rfl, rfl⟩
  | cons next schedule =>
    cases next with
    | none => exact Or.inl ⟨rfl, rfl, by simp [answer, failures]⟩
    | some failure =>
      refine Or.inr ⟨failure.fault, rfl, by simp [answer, failures], ?_⟩
      show (if failure.applied then (c.answer q).2 else c) = c ∨
        (if failure.applied then (c.answer q).2 else c) = (c.answer q).2
      split
      · exact Or.inr rfl
      · exact Or.inl rfl

/--
**Interruption.** A procedure that stops at failures runs as if nothing ever failed; or a call
fails, and then it ends with a fault in a cluster that it would have passed through.
-/
theorem run_interrupted {p : Procedure (Attempt α)} (hp : StopsAtFailure p) (s : Faulty) :
    ((s.run p).1 = (s.cluster.run p).1 ∧ (s.run p).2.cluster = (s.cluster.run p).2) ∨
    ((∃ f, (s.run p).1 = .error f) ∧ (s.run p).2.failures < s.failures ∧
      Passes p s.cluster (s.run p).2.cluster) := by
  induction p generalizing s with
  | done a => exact Or.inl ⟨rfl, rfl⟩
  | ask q next ih =>
    rw [run_ask, Cluster.run_ask]
    rcases s.answer_cases q with ⟨hanswer, hcluster, hfailures⟩ | ⟨f, hanswer, hfailures, hcluster⟩
    · rw [hanswer, ← hcluster]
      refine (ih _ (hp.2 _) (s.answer q).2).imp_right fun ⟨hf, hfewer, hpasses⟩ => ?_
      refine ⟨hf, Nat.lt_of_lt_of_eq hfewer hfailures, Or.inr ?_⟩
      rwa [← hcluster]
    · obtain ⟨f', hf⟩ := hp.1 f
      rw [hanswer, hf, run_done]
      refine Or.inr ⟨⟨f', rfl⟩, hfailures, ?_⟩
      rcases hcluster with h | h
      · exact Or.inl h
      · refine Or.inr ?_
        rw [show (s.answer q).2.cluster = _ from h]
        exact passes_start _ _

end Faulty

end RingKeeper.Recovery
