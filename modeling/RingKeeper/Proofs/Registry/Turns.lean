import RingKeeper.Proofs.Registry.Contention

/-!
# Every call returns

1. `Plan.AsksAtMost` bounds the number of questions of a plan, whatever the answers.
2. `World.IsSettled` says that a call that has not returned waits for an answer. Every world is
   settled (`settled_of_reaches`).
3. `returns_of_turns` says that a call that is started, and then gets as many answers as it may ask
   questions, has returned, whatever else happens in between.
-/

namespace RingKeeper

namespace Plan

variable {Q : Type} {A : Q → Type} {α β : Type} {m n : Nat} {p : Plan Q A α}

/-- Whatever the answers, the plan asks no more questions than these. -/
def AsksAtMost : Nat → Plan Q A α → Prop
  | _, .done _ => True
  | 0, .ask _ _ => False
  | n + 1, .ask _ next => ∀ x, AsksAtMost n (next x)

theorem asksAtMost_done (n : Nat) (a : α) : AsksAtMost n (.done a : Plan Q A α) := by
  cases n <;> trivial

theorem AsksAtMost.mono (h : AsksAtMost m p) (hmn : m ≤ n) : AsksAtMost n p := by
  induction p generalizing m n with
  | done a => exact asksAtMost_done n a
  | ask q next ih =>
    cases m with
    | zero => exact h.elim
    | succ m =>
      obtain ⟨n, rfl⟩ := Nat.exists_eq_add_of_lt hmn
      exact fun x => ih x (h x) (by omega)

/-- What is left of a plan asks no more than the plan. -/
theorem AsksAtMost.goes {S : Type} {react : (q : Q) → S → A q → S → Prop} {s s' : S}
    {p' : Plan Q A α} (hp : AsksAtMost n p) (h : Goes react p s p' s') : AsksAtMost n p' := by
  induction h with
  | start => exact hp
  | ask h hreact ih =>
    cases n with
    | zero => exact ih.elim
    | succ n => exact (ih _).mono (Nat.le_succ n)

theorem AsksAtMost.bind (hp : AsksAtMost m p) {k : α → Plan Q A β}
    (hk : ∀ a, AsksAtMost n (k a)) : AsksAtMost (m + n) (p >>= k) := by
  induction p generalizing m with
  | done a => exact (hk a).mono (Nat.le_add_left n m)
  | ask q next ih =>
    cases m with
    | zero => exact hp.elim
    | succ m =>
      rw [Nat.succ_add_eq_add_succ]
      exact fun x => ih x (hp x)

end Plan

open Registry
open Rehearsal (Call Outcome)

/-! ## The calls -/

namespace Registry

theorem asksAtMost_get (r : Registry) : Plan.AsksAtMost 1 r.get := fun _ => trivial

theorem asksAtMost_acquire (r : Registry) (holder : String) :
    Plan.AsksAtMost 3 (r.acquire holder) := by
  refine r.asksAtMost_get.bind (n := 2) fun x => ?_
  cases x with
  | error f => trivial
  | ok c =>
    show Plan.AsksAtMost 2 (if c.isLockedAgainst holder then _ else _)
    split
    · trivial
    · intro x
      cases x with
      | ok left => trivial
      | error f =>
        obtain ⟨kind, below, root⟩ := f
        cases kind with
        | conflict name =>
          intro x
          cases x with
          | error f => trivial
          | ok c =>
            show Plan.AsksAtMost 0 (if c.isLockedAgainst holder then _ else _)
            split <;> trivial
        | _ => trivial

theorem asksAtMost_putAddress (r : Registry) (pod address : String) :
    Plan.AsksAtMost 2 (r.putAddress pod address) := by
  refine r.asksAtMost_get.bind (n := 1) fun x => ?_
  cases x with
  | error f => trivial
  | ok c =>
    intro x
    cases x <;> trivial

theorem asksAtMost_release (r : Registry) (holder : String) :
    Plan.AsksAtMost 2 (r.release holder) := by
  refine r.asksAtMost_get.bind (n := 1) fun x => ?_
  cases x with
  | error f =>
    obtain ⟨kind, below, root⟩ := f
    cases kind <;> trivial
  | ok c =>
    show Plan.AsksAtMost 1 (if c.lockedBy = holder then _ else _)
    split
    · intro x
      cases x <;> trivial
    · trivial

theorem asksAtMost_commit (r : Registry) (pod address : String) :
    Plan.AsksAtMost 7 (r.commit pod address) := by
  refine (r.asksAtMost_acquire pod).bind (n := 4) fun x => ?_
  cases x with
  | error f => trivial
  | ok guard =>
    refine (r.asksAtMost_putAddress pod address).bind (n := 2) fun written => ?_
    exact (guard.registry.asksAtMost_release guard.holder).bind (n := 0) fun freed => trivial

/-- No call makes more calls to the store than this. -/
def mostQuestions : Nat := 7

theorem asksAtMost_procedure (r : Registry) (call : Call) :
    Plan.AsksAtMost mostQuestions (call.procedure r) := by
  have hreturn {α : Type} {n : Nat} {p : Procedure α} {f : α → Outcome}
      (h : Plan.AsksAtMost n p) (hn : n ≤ mostQuestions) :
      Plan.AsksAtMost mostQuestions (p >>= fun a => .done (f a)) :=
    (h.bind (n := 0) fun a => Plan.asksAtMost_done 0 (f a)).mono hn
  cases call with
  | name => trivial
  | get => exact hreturn r.asksAtMost_get (by decide)
  | addressOf pod =>
    refine hreturn (n := 1) (fun x => ?_) (by decide)
    cases x <;> trivial
  | acquire holder => exact hreturn (r.asksAtMost_acquire holder) (by decide)
  | release holder => exact hreturn (r.asksAtMost_release holder) (by decide)
  | commit pod address => exact hreturn (r.asksAtMost_commit pod address) (by decide)

end Registry

namespace Contention

variable {r : Registry} {call : Call} {a : Activity}

/-! ## Activities that wait for an answer -/

/-- A part that is over has made way for the next one: a call that is under way asks something. -/
theorem exists_asked?_settle (r : Registry) (call : Call) (a : Activity)
    (h : (a.settle r call).IsUnderWay) : ∃ q, (a.settle r call).asked? = some q := by
  cases a with
  | waiting => exact h.elim
  | returned outcome => exact h.elim
  | reading rest =>
    cases rest with
    | done outcome => exact h.elim
    | ask q next => exact ⟨q, rfl⟩
  | taking rest =>
    cases rest with
    | ask q next => exact ⟨q, rfl⟩
    | done taken =>
      cases call with
      | commit pod address =>
        cases taken with
        | error f => exact h.elim
        | ok guard => exact ⟨_, rfl⟩
      | _ => exact h.elim
  | writing guard rest =>
    cases rest with
    | done written => exact ⟨_, rfl⟩
    | ask q next => exact ⟨q, rfl⟩
  | freeing written rest =>
    cases rest with
    | done freed => exact h.elim
    | ask q next => exact ⟨q, rfl⟩

variable {ι : Type} [DecidableEq ι] {call : ι → Call} {w : World ι}

namespace World

/-- Every call that is under way waits for an answer. -/
def IsSettled (w : World ι) : Prop :=
  ∀ i, (w.activity i).IsUnderWay → ∃ q, (w.activity i).asked? = some q

/-- What an event may make of one call: nothing, or it starts, or it hears an answer. -/
theorem next_activity (r : Registry) (call : ι → Call) (w : World ι) (e : Event ι) (i : ι) :
    (w.next r call e).activity i = w.activity i ∨
      (w.activity i = .waiting ∧
        (w.next r call e).activity i = (Activity.first r (call i)).settle r (call i)) ∨
      ∃ q x, (w.activity i).asked? = some q ∧
        (w.next r call e).activity i = (w.activity i).hear r (call i) x := by
  have hupdate (j : ι) (a : Activity) : Function.update w.activity j a i = w.activity i ∨
      i = j ∧ Function.update w.activity j a i = a := by
    by_cases h : i = j
    · subst h
      exact Or.inr ⟨rfl, Function.update_self _ _ _⟩
    · exact Or.inl (Function.update_of_ne h _ _)
  cases e with
  | start j =>
    unfold next
    dsimp only
    split
    · rename_i hj
      rcases hupdate j ((Activity.first r (call j)).settle r (call j)) with h | ⟨rfl, h⟩
      · exact Or.inl h
      · exact Or.inr (Or.inl ⟨hj, h⟩)
    · exact Or.inl rfl
  | answer j =>
    unfold next
    dsimp only
    split
    · rename_i q hq
      rcases hupdate j ((w.activity j).hear r (call j) (w.store.answer q).1) with h | ⟨rfl, h⟩
      · exact Or.inl h
      · exact Or.inr (Or.inr ⟨q, _, hq, h⟩)
    · exact Or.inl rfl
  | fail j f =>
    unfold next
    dsimp only
    split
    · rename_i q hq
      rcases hupdate j ((w.activity j).hear r (call j) (.error f)) with h | ⟨rfl, h⟩
      · exact Or.inl h
      · exact Or.inr (Or.inr ⟨q, _, hq, h⟩)
    · exact Or.inl rfl
  | edit e =>
    unfold next
    dsimp only
    split <;> exact Or.inl rfl
  | delete => exact Or.inl rfl

theorem IsSettled.next (h : w.IsSettled) (e : Event ι) : (w.next r call e).IsSettled := by
  intro i hi
  rcases next_activity r call w e i with hact | ⟨-, hact⟩ | ⟨q, x, -, hact⟩ <;> rw [hact] at hi ⊢
  · exact h i hi
  · exact exists_asked?_settle r (call i) _ hi
  · exact exists_asked?_settle r (call i) _ hi

end World

theorem settled_of_reaches {admits : World ι → Event ι → Prop} {store : Store}
    (hw : Reaches r call admits store w) : w.IsSettled := by
  induction hw with
  | start => exact fun i h => h.elim
  | step e hw he ih => exact ih.next e

/-! ## Turns -/

/-- A call that is under way, or over, does not go back to waiting for its start. -/
theorem settle_ne_waiting (r : Registry) (c : Call) (h : a ≠ .waiting) :
    a.settle r c ≠ .waiting := by
  cases a with
  | waiting => exact h
  | returned outcome => exact h
  | reading rest => cases rest <;> nofun
  | taking rest =>
    cases rest with
    | ask q next => nofun
    | done taken => cases c <;> cases taken <;> nofun
  | writing guard rest => cases rest <;> nofun
  | freeing written rest => cases rest <;> nofun

theorem first_ne_waiting (r : Registry) (c : Call) : Activity.first r c ≠ .waiting := by
  cases c <;> nofun

theorem resume_ne_waiting (x : Attempt ConfigMap) (h : a ≠ .waiting) : a.resume x ≠ .waiting := by
  cases a <;> first | exact h | nofun

/-- The call has started, and makes no more calls to the store than these. -/
structure HasAtMost (r : Registry) (call : ι → Call) (w : World ι) (i : ι) (n : Nat) : Prop where
  started : w.activity i ≠ .waiting
  bound : Plan.AsksAtMost n ((w.activity i).plan r (call i))

section
variable {i : ι} {n : Nat}

omit [DecidableEq ι] in
/-- A call that may ask nothing more has returned. -/
theorem HasAtMost.returned (h : HasAtMost r call w i 0) (hw : w.IsSettled) :
    ∃ outcome, w.activity i = .returned outcome := by
  have hbound := h.bound
  cases hact : w.activity i with
  | waiting => exact absurd hact h.started
  | returned outcome => exact ⟨outcome, rfl⟩
  | _ =>
    obtain ⟨q, hq⟩ := hw i (by rw [hact]; trivial)
    rw [Activity.plan_resume r (call i) hq] at hbound
    exact hbound.elim

omit [DecidableEq ι] in
/-- An answer uses up a question. -/
theorem asksAtMost_hear {q : Question} (hq : (w.activity i).asked? = some q)
    (h : Plan.AsksAtMost (n + 1) ((w.activity i).plan r (call i))) (x : Attempt ConfigMap) :
    Plan.AsksAtMost n (((w.activity i).hear r (call i) x).plan r (call i)) := by
  rw [Activity.plan_hear r (call i) hq] at h
  exact h x

/-- No event adds a question. -/
theorem asksAtMost_next (h : Plan.AsksAtMost n ((w.activity i).plan r (call i))) (e : Event ι) :
    Plan.AsksAtMost n (((w.next r call e).activity i).plan r (call i)) := by
  rcases World.next_activity r call w e i with hact | ⟨hi, hact⟩ | ⟨q, x, hq, hact⟩ <;> rw [hact]
  · exact h
  · rw [hi] at h
    rw [Activity.plan_settle, Activity.plan_first]
    exact h
  · cases n with
    | zero =>
      rw [Activity.plan_hear r (call i) hq] at h
      exact h.elim
    | succ n => exact (asksAtMost_hear hq h x).mono (Nat.le_succ n)

theorem HasAtMost.next (h : HasAtMost r call w i n) (e : Event ι) :
    HasAtMost r call (w.next r call e) i n := by
  refine ⟨?_, asksAtMost_next h.bound e⟩
  rcases World.next_activity r call w e i with hact | ⟨-, hact⟩ | ⟨q, x, -, hact⟩ <;> rw [hact]
  · exact h.started
  · exact settle_ne_waiting r (call i) (first_ne_waiting r (call i))
  · exact settle_ne_waiting r (call i) (resume_ne_waiting x h.started)

/-- Once it was told to, a call has started. -/
theorem hasAtMost_start (h : Plan.AsksAtMost n ((w.activity i).plan r (call i))) :
    HasAtMost r call (w.next r call (.start i)) i n := by
  by_cases hi : w.activity i = .waiting
  · refine ⟨?_, asksAtMost_next h _⟩
    rw [World.next_start hi]
    dsimp only
    rw [Function.update_self]
    exact settle_ne_waiting r (call i) (first_ne_waiting r (call i))
  · exact HasAtMost.next ⟨hi, h⟩ _

/-- With an answer of its own, a call has one question less. -/
theorem HasAtMost.answer (h : HasAtMost r call w i (n + 1)) (hw : w.IsSettled) :
    HasAtMost r call (w.next r call (.answer i)) i n := by
  refine ⟨(h.next (.answer i)).started, ?_⟩
  cases hq : (w.activity i).asked? with
  | some q =>
    have hact : (w.next r call (.answer i)).activity i =
        (w.activity i).hear r (call i) (w.store.answer q).1 := by
      rw [World.next_answer hq]
      exact Function.update_self _ _ _
    rw [hact]
    exact asksAtMost_hear hq h.bound _
  | none =>
    refine asksAtMost_next ?_ (.answer i)
    cases hact : w.activity i with
    | waiting => exact absurd hact h.started
    | returned outcome => exact Plan.asksAtMost_done n outcome
    | _ =>
      obtain ⟨q, hsome⟩ := hw i (by rw [hact]; trivial)
      rw [hq] at hsome
      cases hsome

theorem HasAtMost.run (h : HasAtMost r call w i n) (hw : w.IsSettled) {events : List (Event ι)}
    (hturns : (List.replicate n (Event.answer i)).Sublist events) :
    ∃ outcome, (w.run r call events).activity i = .returned outcome := by
  induction events generalizing w n with
  | nil =>
    cases n with
    | zero => exact h.returned hw
    | succ n => cases hturns
  | cons e events ih =>
    cases n with
    | zero => exact ih (h.next e) (hw.next e) (List.nil_sublist events)
    | succ n =>
      cases hturns with
      | cons _ hlater => exact ih (h.next e) (hw.next e) hlater
      | cons_cons _ hrest => exact ih (h.answer hw) (hw.next _) hrest

/-- What a call needs to return: to be started, and an answer for each question it may ask. -/
def turns (i : ι) : List (Event ι) := .start i :: List.replicate mostQuestions (.answer i)

/-- **Every call returns.** Whatever else happens, a call that gets its turns has returned. -/
theorem returns_of_turns {admits : World ι → Event ι → Prop} {store : Store}
    (hw : Reaches r call admits store w) {events : List (Event ι)}
    (hturns : (turns i).Sublist events) :
    ∃ outcome, (w.run r call events).activity i = .returned outcome := by
  have hbound : Plan.AsksAtMost mostQuestions ((w.activity i).plan r (call i)) := by
    by_cases hi : w.activity i = .waiting
    · rw [hi]
      exact asksAtMost_procedure r (call i)
    · obtain ⟨w₀, w₁, -, -, hgoes, -⟩ := hw.goes hi
      exact (asksAtMost_procedure r (call i)).goes hgoes
  have hsettled := settled_of_reaches hw
  clear hw
  induction events generalizing w with
  | nil => cases hturns
  | cons e events ih =>
    cases hturns with
    | cons _ hlater => exact ih hlater (asksAtMost_next hbound e) (hsettled.next e)
    | cons_cons _ hrest => exact (hasAtMost_start hbound).run (hsettled.next _) hrest

end

end Contention

end RingKeeper
