import RingKeeper.Proofs.Retry

/-!
# The stages of a bootstrap

What the stages of a bootstrap ask for, and how they come to their end, in any surroundings.

1. `Question.isIdle` are the questions that leave the registry and the files alone. Waiting to come
   up asks nothing else (`onlyAsks_comesUp`), and neither does dealing with an old node, where all
   that is asked goes to this node (`asksOldNode_findOldNode`, `asksOldNode_shutDownOldNode`).
2. `Polls` are the runs of the polling loop, one case for each way through it (`polls_of_runs`), and
   `runs_comesUp` is a node that is up at once.
3. `RejoinEnds` lists the ways in which a rejoin comes to its end.
-/

namespace RingKeeper

/-! ## Questions -/

namespace Bootstrap

open Plan (OnlyAsks Runs)

/-- Whether the question leaves the registry and the files alone. -/
def Question.isIdle : Question → Bool
  | .store _ => false
  | .overwrite .. => false
  | _ => true

/-- Whether the question is a call to the store of the registry. -/
def Question.isCall : Question → Bool
  | .store _ => true
  | _ => false

theorem Question.not_isCall_of_isIdle {q : Question} (h : q.isIdle = true) : q.isCall = false := by
  cases q <;> first | rfl | cases h

abbrev Idles {α : Type} (p : Procedure α) : Prop := OnlyAsks (·.isIdle = true) p

variable {b : Bootstrap}

theorem idles_ask {q : Question} (h : q.isIdle = true) : Idles (ask q) := Plan.onlyAsks_request h

theorem onlyAsks_inStore {α : Type} (p : Registry.Procedure α) :
    OnlyAsks (·.isCall = true) (inStore p) := by
  refine Plan.onlyAsks_perform (fun call => ?_) p
  exact ⟨rfl, fun _ => trivial⟩

/-- The question is part of waiting to come up: the node is polled, or time passes. -/
def Question.IsWait (q : Question) : Prop :=
  (∃ limit, q = .ownStatus limit) ∨ ∃ span, q = .sleep span

theorem Question.IsWait.isIdle {q : Question} (h : q.IsWait) : q.isIdle = true := by
  rcases h with ⟨limit, rfl⟩ | ⟨span, rfl⟩ <;> rfl

theorem waits_pause (span : Span) : OnlyAsks Question.IsWait (pause span) := by
  unfold pause
  split
  · trivial
  · exact Plan.onlyAsks_request (Or.inr ⟨span, rfl⟩)

theorem waits_poll (b : Bootstrap) (limit : Span) {goOn : Span → Procedure Bool}
    (h : ∀ after, OnlyAsks Question.IsWait (goOn after)) :
    OnlyAsks Question.IsWait (b.poll limit goOn) := by
  refine ⟨Or.inl ⟨limit, rfl⟩, fun x => ?_⟩
  cases x with
  | overdue => trivial
  | finished after output =>
    show OnlyAsks _ (if b.isUpBy output = true then _ else _)
    split
    · trivial
    · exact h after

theorem waits_pollUntil (hinterval : b.pollInterval.nanos ≠ 0) (deadline due now : Span) :
    OnlyAsks Question.IsWait (b.pollUntil hinterval deadline due now) := by
  induction due, now using pollUntil.induct b hinterval deadline with
  | case1 due now hlate =>
    rw [pollUntil_late hinterval hlate]
    exact (waits_pause _).bind fun _ => trivial
  | case2 due now hdue ih =>
    rw [pollUntil_due hinterval hdue]
    exact (waits_pause _).bind fun _ => b.waits_poll _ ih

theorem onlyAsks_comesUp (b : Bootstrap) (timeout : Span) : Idles (b.comesUp timeout) := by
  unfold comesUp
  split
  · exact ⟨rfl, fun never => nomatch never⟩
  · rename_i hinterval
    exact (waits_pollUntil hinterval _ _ _).mono fun _ => Question.IsWait.isIdle

/-- The question goes to the node at this address. -/
def Question.IsTo (host : String) (q : Question) : Prop :=
  q = .connect host ∨ ∃ name, q = .command (.peer host) name

theorem Question.IsTo.isIdle {host : String} {q : Question} (h : q.IsTo host) :
    q.isIdle = true := by
  rcases h with rfl | ⟨name, rfl⟩ <;> rfl

/-- The question is part of looking at the node at this address. -/
def Question.LooksAt (host : String) (q : Question) : Prop :=
  q = .connect host ∨ q = .command (.peer host) Admin.statusCommand ∨
    q = .command (.peer host) Admin.infoCommand

theorem Question.LooksAt.isTo {host : String} {q : Question} (h : q.LooksAt host) :
    q.IsTo host := by
  rcases h with rfl | rfl | rfl
  · exact Or.inl rfl
  · exact Or.inr ⟨_, rfl⟩
  · exact Or.inr ⟨_, rfl⟩

theorem looksAt_isOldNodeAlive (oldIp : String) :
    OnlyAsks (·.LooksAt oldIp) (isOldNodeAlive oldIp) := by
  have hask {q : Question} (h : q.LooksAt oldIp) : OnlyAsks (·.LooksAt oldIp) (ask q) :=
    Plan.onlyAsks_request h
  unfold isOldNodeAlive
  refine (hask (Or.inl rfl)).bind fun connected => ?_
  split
  · trivial
  refine (hask (Or.inr (Or.inl rfl))).bind fun status => ?_
  split
  · trivial
  split
  · refine (hask (Or.inr (Or.inr rfl))).bind fun info => ?_
    split <;> trivial
  · trivial

theorem looksAt_findOldNode (b : Bootstrap) (oldIp : String) :
    OnlyAsks (·.LooksAt oldIp) (b.findOldNode oldIp) := by
  unfold findOldNode
  split
  · exact looksAt_isOldNodeAlive oldIp
  · trivial

theorem asksOldNode_isOldNodeAlive (oldIp : String) :
    OnlyAsks (·.IsTo oldIp) (isOldNodeAlive oldIp) :=
  (looksAt_isOldNodeAlive oldIp).mono fun _ => Question.LooksAt.isTo

theorem asksOldNode_findOldNode (b : Bootstrap) (oldIp : String) :
    OnlyAsks (·.IsTo oldIp) (b.findOldNode oldIp) :=
  (b.looksAt_findOldNode oldIp).mono fun _ => Question.LooksAt.isTo

theorem asksOldNode_shutDownOldNode (oldIp : String) :
    OnlyAsks (·.IsTo oldIp) (shutDownOldNode oldIp) := by
  refine ⟨Or.inl rfl, fun x => ?_⟩
  cases x with
  | error f => trivial
  | ok u => exact ⟨Or.inr ⟨_, rfl⟩, fun _ => ⟨Or.inr ⟨_, rfl⟩, fun _ => trivial⟩⟩

theorem onlyAsks_findOldNode (b : Bootstrap) (oldIp : String) : Idles (b.findOldNode oldIp) :=
  (b.asksOldNode_findOldNode oldIp).mono fun _ => Question.IsTo.isIdle

theorem onlyAsks_shutDownOldNode (oldIp : String) : Idles (shutDownOldNode oldIp) :=
  (asksOldNode_shutDownOldNode oldIp).mono fun _ => Question.IsTo.isIdle

theorem looksUp_isBootstrapped (b : Bootstrap) :
    OnlyAsks (· = .lookUp b.settings.systemDataDir) b.isBootstrapped := by
  refine ⟨rfl, fun found => ?_⟩
  cases found <;> trivial

/-- A commit asks for nothing but the store, and for time between its tries. -/
theorem onlyAsks_commit (b : Bootstrap) :
    OnlyAsks (fun q => q.isCall = true ∨ ∃ span, q = .sleep span) b.commit := by
  refine RetryPolicy.onlyAsks_tryAgain ?_ ?_ _
  · exact ⟨Or.inr ⟨_, rfl⟩, fun _ => trivial⟩
  · exact (onlyAsks_inStore _).mono fun _ h => Or.inl h

/-! ## Runs -/

section
variable {S : Type} {react : (q : Question) → S → Answer q → S → Prop} {s s' : S}

theorem runs_inStore {α : Type} {p : Registry.Procedure α} {a : α} :
    Runs react (inStore p) s a s' ↔ Runs (fun call => react (.store call)) p s a s' := by
  have hreact : (fun (call : Registry.Question) s (x : Registry.Answer call) s' =>
      Runs react (ask (.store call)) s x s') = fun call => react (.store call) := by
    funext call s x s'
    exact propext Plan.runs_request
  unfold inStore
  rw [Plan.runs_perform, hreact]

/-- A poll is not answered in time, or it is, and then the node is up or the wait goes on. -/
theorem runs_poll {limit : Span} {goOn : Span → Procedure Bool} {up : Bool} :
    Runs react (b.poll limit goOn) s up s' ↔
      (up = false ∧ react (.ownStatus limit) s .overdue s') ∨
      ∃ after output s₁, react (.ownStatus limit) s (.finished after output) s₁ ∧
        ((b.isUpBy output = true ∧ up = true ∧ s' = s₁) ∨
          (b.isUpBy output = false ∧ Runs react (goOn after) s₁ up s')) := by
  unfold poll
  rw [Plan.runs_bind]
  constructor
  · rintro ⟨x, s₁, hpoll, h⟩
    replace hpoll := Plan.runs_request.mp hpoll
    cases x with
    | overdue =>
      obtain ⟨rfl, rfl⟩ := Plan.runs_done.mp h
      exact Or.inl ⟨rfl, hpoll⟩
    | finished after output =>
      refine Or.inr ⟨after, output, s₁, hpoll, ?_⟩
      cases hup : b.isUpBy output with
      | true =>
        simp only [hup, if_true] at h
        exact Or.inl ⟨rfl, Plan.runs_done.mp h⟩
      | false =>
        simp only [hup, Bool.false_eq_true, if_false] at h
        exact Or.inr ⟨rfl, h⟩
  · rintro (⟨rfl, hpoll⟩ | ⟨after, output, s₁, hpoll, ⟨hup, rfl, rfl⟩ | ⟨hdown, h⟩⟩)
    · exact ⟨_, s', Plan.runs_request.mpr hpoll, .done _ _⟩
    · refine ⟨_, s', Plan.runs_request.mpr hpoll, ?_⟩
      simp only [hup, if_true]
      exact .done _ _
    · refine ⟨_, s₁, Plan.runs_request.mpr hpoll, ?_⟩
      simp only [hdown, Bool.false_eq_true, if_false]
      exact h

/-- A node that is up by the answer to its first poll need not wait. -/
theorem runs_comesUp {timeout after : Span} {output : Attempt String} (hup : b.isUpBy output = true)
    (hinterval : b.pollInterval.nanos ≠ 0)
    (hreact : react (.ownStatus timeout) s (.finished after output) s') :
    Runs react (b.comesUp timeout) s true s' := by
  rw [comesUp_eq hinterval]
  exact runs_poll.mpr (Or.inr ⟨after, output, s', hreact, Or.inl ⟨hup, rfl, rfl⟩⟩)

/-- The ways in which a rejoin comes to its end. -/
inductive RejoinEnds (react : (q : Question) → S → Answer q → S → Prop) (b : Bootstrap)
    (timeout : Span) (s : S) : Attempt Unit → S → Prop where
  | timedOut {s' : S} (h : Runs react (b.comesUp timeout) s false s') :
    RejoinEnds react b timeout s (.error (.ofKind (.rejoinTimeout b.settings.podIp))) s'
  | notCommitted {s₁ s' : S} {f : Fault} (hup : Runs react (b.comesUp timeout) s true s₁)
    (h : Runs react b.commit s₁ (.error f) s') :
    RejoinEnds react b timeout s (.error (f.within commitContext)) s'
  | committed {s₁ s₂ s' : S} {a : Attempt Unit} (hup : Runs react (b.comesUp timeout) s true s₁)
    (hcommit : Runs react b.commit s₁ (.ok ()) s₂)
    (hwrite : Runs react (b.writeMarker "") s₂ a s') : RejoinEnds react b timeout s a s'

theorem runs_rejoinWithin {timeout : Span} {a : Attempt Unit}
    (h : Runs react (b.rejoinWithin timeout) s a s') : RejoinEnds react b timeout s a s' := by
  unfold rejoinWithin at h
  obtain ⟨up, s₁, hup, h⟩ := Plan.runs_bind.mp h
  cases up with
  | false =>
    obtain ⟨rfl, rfl⟩ := Plan.runs_done.mp h
    exact .timedOut hup
  | true =>
    obtain ⟨x, s₂, hcommit, h⟩ := Plan.runs_bind.mp h
    cases x with
    | error f =>
      obtain ⟨rfl, rfl⟩ := Plan.runs_done.mp h
      exact .notCommitted hup hcommit
    | ok u => exact .committed hup hcommit h

end

end Bootstrap

end RingKeeper
