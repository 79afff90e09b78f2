import Mathlib.Data.Set.Insert
import Mathlib.Logic.Function.Basic
import Mathlib.Logic.Relation
import RingKeeper.Proofs.Plan
import RingKeeper.Proofs.Registry.OneEdit
import RingKeeper.Registry.Store

/-!
# Contention for the registry

Any number of calls share one store. Each call runs its procedure, one call to the store at a time,
and in between anything may happen: other calls go on, calls to the store fail without effect, and
someone else edits the configmap or deletes it. Each call is made once; a client that makes several
has them start one after the other.

1. `Activity` is how far one call has come. `Activity.plan_first` and `Activity.plan_hear` say that
   the activities of a call are its procedure, cut where the lock is taken and where it begins to be
   freed.
2. `World.next` is what one event makes of the store and the calls. A world also remembers what each
   call read last, which holders have a live guard, and what was written.
3. `Reaches` are the worlds that events lead to. In each of them the steps of a call are those of
   its procedure (`Reaches.goes`), and those of a call that is over are a run of it
   (`Reaches.runs`), such as a run of `Registry.commit` (`Reaches.runs_commit`).
-/

namespace RingKeeper.Contention

open Registry
open Rehearsal (Call Outcome)

/-! ## Activities -/

/-- The parts that calls to the registry are made of. -/
inductive Leg where
  | reading
  | taking
  | writing
  | freeing
deriving DecidableEq, Repr

/-- How far a call has come, with what is left of the part that it is in. -/
inductive Activity where
  | waiting
  | reading (rest : Procedure Outcome)
  | taking (rest : Procedure (Attempt Guard))
  | writing (guard : Guard) (rest : Procedure (Attempt Unit))
  /-- A commit keeps the outcome of its write while it frees the lock. -/
  | freeing (written : Option (Attempt Unit)) (rest : Procedure Bool)
  | returned (outcome : Outcome)

namespace Activity

/-- What a call does first. -/
def first (r : Registry) : Call → Activity
  | .acquire holder => .taking (r.acquire holder)
  | .commit pod _ => .taking (r.acquire pod)
  | .release holder => .freeing none (r.release holder)
  | call => .reading (call.procedure r)

/-- What follows when the lock was taken or refused. -/
def afterTaking (r : Registry) : Call → Attempt Guard → Activity
  | .commit pod address, .ok guard => .writing guard (r.putAddress pod address)
  | .commit _ _, .error f => .returned (.updated (.error f))
  | _, a => .returned (.acquired a)

/-- What follows when the lock was freed, or could not be. -/
def afterFreeing : Option (Attempt Unit) → Bool → Outcome
  | none, freed => .released freed
  | some written, _ => .updated written

/-- A part that is over makes way for the next one at once. -/
def settle (r : Registry) (call : Call) : Activity → Activity
  | .reading (.done outcome) => .returned outcome
  | .taking (.done a) => afterTaking r call a
  | .writing guard (.done written) => .freeing (some written) guard.release
  | .freeing written (.done freed) => .returned (afterFreeing written freed)
  | a => a

/-- The call to the store that comes next. -/
def asked? : Activity → Option Question
  | .reading rest => Registry.asked? rest
  | .taking rest => Registry.asked? rest
  | .writing _ rest => Registry.asked? rest
  | .freeing _ rest => Registry.asked? rest
  | _ => none

def resume (x : Attempt ConfigMap) : Activity → Activity
  | .reading rest => .reading (Registry.resume x rest)
  | .taking rest => .taking (Registry.resume x rest)
  | .writing guard rest => .writing guard (Registry.resume x rest)
  | .freeing written rest => .freeing written (Registry.resume x rest)
  | a => a

/-- What the call goes on to after an answer. -/
def hear (r : Registry) (call : Call) (x : Attempt ConfigMap) (a : Activity) : Activity :=
  (a.resume x).settle r call

/-- The part that the call is in. A call that has not started or is over counts as reading. -/
def leg : Activity → Leg
  | .taking _ => .taking
  | .writing .. => .writing
  | .freeing .. => .freeing
  | _ => .reading

/-- Whether the call has started and is not over. -/
def IsUnderWay : Activity → Prop
  | .waiting => False
  | .returned _ => False
  | _ => True

/-- All that is left of the call. -/
def plan (r : Registry) (call : Call) : Activity → Procedure Outcome
  | .waiting => call.procedure r
  | .reading rest => rest
  | .taking rest =>
    match call with
    | .commit pod address => do
      match ← rest with
      | .error f => return .updated (.error f)
      | .ok guard =>
        let written ← r.putAddress pod address
        let _ ← guard.release
        return .updated written
    | _ => do return .acquired (← rest)
  | .writing guard rest => do
    let written ← rest
    let _ ← guard.release
    return .updated written
  | .freeing none rest => do return .released (← rest)
  | .freeing (some written) rest => do
    let _ ← rest
    return .updated written
  | .returned outcome => return outcome

theorem plan_first (r : Registry) (call : Call) :
    (first r call).plan r call = call.procedure r := by
  cases call with
  | commit pod address =>
    show _ = (r.commit pod address >>= fun a => pure (Outcome.updated a))
    unfold Registry.commit
    rw [bind_assoc]
    refine congrArg (r.acquire pod >>= ·) (funext fun a => ?_)
    cases a with
    | error f => rfl
    | ok guard =>
      show _ = (r.putAddress pod address >>= fun written =>
        guard.release >>= fun _ => pure written) >>= fun a => pure (Outcome.updated a)
      rw [bind_assoc]
      refine congrArg (r.putAddress pod address >>= ·) (funext fun written => ?_)
      rw [bind_assoc]
      rfl
  | _ => rfl

theorem plan_settle (r : Registry) (call : Call) (a : Activity) :
    (a.settle r call).plan r call = a.plan r call := by
  cases a with
  | waiting => rfl
  | returned outcome => rfl
  | reading rest => cases rest <;> rfl
  | taking rest =>
    cases rest with
    | ask q next => rfl
    | done a => cases call <;> cases a <;> rfl
  | writing guard rest => cases rest <;> rfl
  | freeing written rest => cases rest <;> cases written <;> rfl

theorem plan_resume (r : Registry) (call : Call) {a : Activity} {q : Question}
    (hq : a.asked? = some q) : a.plan r call = .ask q fun x => (a.resume x).plan r call := by
  cases a with
  | waiting => cases hq
  | returned outcome => cases hq
  | reading rest =>
    cases rest with
    | done o => cases hq
    | ask q next => cases hq; rfl
  | taking rest =>
    cases rest with
    | done o => cases hq
    | ask q next => cases hq; cases call <;> rfl
  | writing guard rest =>
    cases rest with
    | done o => cases hq
    | ask q next => cases hq; rfl
  | freeing written rest =>
    cases rest with
    | done o => cases hq
    | ask q next => cases hq; cases written <;> rfl

/-- **The activities of a call are its procedure.** Whatever the answer, what is left of the call
after it is what its procedure goes on with. -/
theorem plan_hear (r : Registry) (call : Call) {a : Activity} {q : Question}
    (hq : a.asked? = some q) : a.plan r call = .ask q fun x => (a.hear r call x).plan r call := by
  rw [plan_resume r call hq]
  exact congrArg (Plan.ask q) (funext fun x => (plan_settle r call (a.resume x)).symm)

end Activity

/-! ## Worlds -/

/-- A change of the configmap by someone else: what becomes of each of its parts. -/
structure ForeignEdit where
  metadata : Metadata → Metadata := id
  data : Option TextTable → Option TextTable := id
  immutable : Option Bool → Option Bool := id
  rest : Json.Fields → Json.Fields := id

def ForeignEdit.apply (e : ForeignEdit) (c : ConfigMap) : ConfigMap where
  metadata := e.metadata c.metadata
  data := e.data c.data
  immutable := e.immutable c.immutable
  rest := e.rest c.rest

/-- A replacement that a call made. -/
structure Write (ι : Type) where
  caller : ι
  leg : Leg
  /-- What the caller had read last. -/
  read : Option ConfigMap
  /-- What was stored before, and what is stored since. -/
  found : Option ConfigMap
  left : ConfigMap

inductive Entry (ι : Type) where
  | write (w : Write ι)
  | edit (e : ForeignEdit)

structure World (ι : Type) where
  store : Store
  activity : ι → Activity
  /-- What each call read last. -/
  seen : ι → Option ConfigMap
  /--
  The holders that have a live guard: the lock was taken for them, and nothing has begun since to
  free it for them.
  -/
  live : Set String
  /-- What was written, oldest first. -/
  log : List (Entry ι)

inductive Event (ι : Type) where
  | start (i : ι)
  /-- The store answers the call that `i` waits for. -/
  | answer (i : ι)
  /-- The call that `i` waits for fails and is not applied. -/
  | fail (i : ι) (f : Fault)
  | edit (e : ForeignEdit)
  | delete

/-- The live guards after a call has started. -/
def guardsAtStart (live : Set String) : Call → Set String
  | .release holder => live \ {holder}
  | _ => live

/-- The live guards after a call has gone on from one activity to the next. -/
def guards (live : Set String) : Activity → Activity → Set String
  | .taking _, .writing guard _ => insert guard.holder live
  | .taking _, .returned (.acquired (.ok guard)) => insert guard.holder live
  | .writing guard _, .freeing .. => live \ {guard.holder}
  | _, _ => live

namespace World

variable {ι : Type} [DecidableEq ι] (r : Registry) (call : ι → Call)

/-- No call has started yet. -/
def fresh (store : Store) : World ι := ⟨store, fun _ => .waiting, fun _ => none, ∅, []⟩

/-- The call gets an answer. -/
def hear (w : World ι) (i : ι) (x : Attempt ConfigMap) : World ι :=
  let a := (w.activity i).hear r (call i) x
  { w with
    activity := Function.update w.activity i a
    live := guards w.live (w.activity i) a }

/-- The entry of an answer that says that the configmap was replaced. -/
def written (w : World ι) (i : ι) : Question → Attempt ConfigMap → List (Entry ι)
  | .replace _, .ok left =>
    [.write ⟨i, (w.activity i).leg, w.seen i, w.store.configMap?, left⟩]
  | _, _ => []

/-- The store answers the call. -/
def answer (w : World ι) (i : ι) (q : Question) : World ι :=
  let (x, store) := w.store.answer q
  { w.hear r call i x with
    store
    seen := Function.update w.seen i (readAfter (w.seen i) q x)
    log := w.log ++ w.written i q x }

/-- What an event makes of the world. An event that cannot happen changes nothing. -/
def next (w : World ι) : Event ι → World ι
  | .start i =>
    match w.activity i with
    | .waiting =>
      { w with
        activity := Function.update w.activity i
          ((Activity.first r (call i)).settle r (call i))
        live := guardsAtStart w.live (call i) }
    | _ => w
  | .answer i =>
    match (w.activity i).asked? with
    | some q => w.answer r call i q
    | none => w
  | .fail i f =>
    match (w.activity i).asked? with
    | some _ => w.hear r call i (.error f)
    | none => w
  | .edit e =>
    match w.store.stored with
    | some (c, version) =>
      { w with
        store := ⟨some (e.apply (c.atVersion version), version + 1)⟩
        log := w.log ++ [.edit e] }
    | none => w
  | .delete => { w with store := ⟨none⟩ }

section
variable {r : Registry} {call : ι → Call} {w : World ι} {i : ι}

theorem next_start (hi : w.activity i = .waiting) :
    w.next r call (.start i) =
      { w with
        activity := Function.update w.activity i ((Activity.first r (call i)).settle r (call i))
        live := guardsAtStart w.live (call i) } := by
  unfold next
  dsimp only
  rw [hi]

theorem next_start_of_ne (hi : w.activity i ≠ .waiting) : w.next r call (.start i) = w := by
  unfold next
  dsimp only
  split
  · exact absurd ‹_› hi
  · rfl

theorem next_answer {q : Question} (hq : (w.activity i).asked? = some q) :
    w.next r call (.answer i) = w.answer r call i q := by
  unfold next
  dsimp only
  rw [hq]

theorem next_answer_of_none (hq : (w.activity i).asked? = none) :
    w.next r call (.answer i) = w := by
  unfold next
  dsimp only
  rw [hq]

theorem next_fail {q : Question} (hq : (w.activity i).asked? = some q) (f : Fault) :
    w.next r call (.fail i f) = w.hear r call i (.error f) := by
  unfold next
  dsimp only
  rw [hq]

theorem next_fail_of_none (hq : (w.activity i).asked? = none) (f : Fault) :
    w.next r call (.fail i f) = w := by
  unfold next
  dsimp only
  rw [hq]

end

/-- The world after these events. -/
def run (w : World ι) (events : List (Event ι)) : World ι := events.foldl (next r call) w

end World

/-- The worlds that events lead to, if only those happen that are admitted. -/
inductive Reaches {ι : Type} [DecidableEq ι] (r : Registry) (call : ι → Call)
    (admits : World ι → Event ι → Prop) (store : Store) : World ι → Prop where
  | start : Reaches r call admits store (.fresh store)
  | step {w : World ι} (e : Event ι) (hw : Reaches r call admits store w) (he : admits w e) :
    Reaches r call admits store (w.next r call e)

/-- Each event is admitted in the world that the ones before it lead to. -/
def Admitted {ι : Type} [DecidableEq ι] (r : Registry) (call : ι → Call)
    (admits : World ι → Event ι → Prop) : World ι → List (Event ι) → Prop
  | _, [] => True
  | w, e :: events => admits w e ∧ Admitted r call admits (w.next r call e) events

theorem Reaches.run {ι : Type} [DecidableEq ι] {r : Registry} {call : ι → Call}
    {admits : World ι → Event ι → Prop} {store : Store} {w : World ι}
    (hw : Reaches r call admits store w) {events : List (Event ι)}
    (h : Admitted r call admits w events) : Reaches r call admits store (w.run r call events) := by
  induction events generalizing w with
  | nil => exact hw
  | cons e events ih => exact ih (hw.step e h.1) h.2

/-! ## The steps of a call -/

/-- Whose call the event is about. -/
def Event.caller? {ι : Type} : Event ι → Option ι
  | .start i => some i
  | .answer i => some i
  | .fail i _ => some i
  | _ => none

section
variable {ι : Type} [DecidableEq ι] {r : Registry} {call : ι → Call}
  {admits : World ι → Event ι → Prop} {store : Store} {w w' : World ι} {e : Event ι} {i : ι}

theorem World.activity_next_of_ne (he : e.caller? ≠ some i) :
    (w.next r call e).activity i = w.activity i := by
  have hupdate {j : ι} (a : Activity) (hj : Event.caller? e = some j) :
      Function.update w.activity j a i = w.activity i := by
    refine Function.update_of_ne (fun hi => he ?_) _ _
    rw [hj, hi]
  cases e with
  | start j =>
    unfold next
    dsimp only
    split
    · exact hupdate _ rfl
    · rfl
  | answer j =>
    unfold next
    dsimp only
    split
    · exact hupdate _ rfl
    · rfl
  | fail j f =>
    unfold next
    dsimp only
    split
    · exact hupdate _ rfl
    · rfl
  | edit e =>
    unfold next
    dsimp only
    split <;> rfl
  | delete => rfl

/-- The world becomes this one while the call does not go on. -/
def Meanwhile (r : Registry) (call : ι → Call) (i : ι) : World ι → World ι → Prop :=
  Relation.ReflTransGen fun w w' => ∃ e : Event ι, e.caller? ≠ some i ∧ w' = w.next r call e

/-- The call's question is answered by the store, or fails, when it is its turn again. -/
def Hears (r : Registry) (call : ι → Call) (i : ι) (q : Question) (w : World ι)
    (x : Registry.Answer q) (w' : World ι) : Prop :=
  ∃ w₁, Meanwhile r call i w w₁ ∧
    ((x = (w₁.store.answer q).1 ∧ w' = w₁.next r call (.answer i)) ∨
      ∃ f, x = .error f ∧ w' = w₁.next r call (.fail i f))

/-- **The steps of a call are those of its procedure.** What is left of a call that was started is
what its procedure goes on with, each of its questions answered in its own time. -/
theorem Reaches.goes (hw : Reaches r call admits store w) (hi : w.activity i ≠ .waiting) :
    ∃ w₀ w₁, Reaches r call admits store w₀ ∧ w₀.activity i = .waiting ∧
      Plan.Goes (Hears r call i) ((call i).procedure r) (w₀.next r call (.start i))
        ((w.activity i).plan r (call i)) w₁ ∧
      Meanwhile r call i w₁ w := by
  induction hw with
  | start => exact absurd rfl hi
  | @step w e hw he ih =>
    -- one more answer is one more step of the procedure
    have hheard {q : Question} {x : Attempt ConfigMap} {w' : World ι}
        (hq : (w.activity i).asked? = some q)
        (hact : w'.activity i = (w.activity i).hear r (call i) x)
        (hx : (x = (w.store.answer q).1 ∧ w' = w.next r call (.answer i)) ∨
          ∃ f, x = .error f ∧ w' = w.next r call (.fail i f)) :
        ∃ w₀ w₁, Reaches r call admits store w₀ ∧ w₀.activity i = .waiting ∧
          Plan.Goes (Hears r call i) ((call i).procedure r) (w₀.next r call (.start i))
            ((w'.activity i).plan r (call i)) w₁ ∧
          Meanwhile r call i w₁ w' := by
      have hstarted : w.activity i ≠ .waiting := fun h => by
        rw [h] at hq
        cases hq
      obtain ⟨w₀, w₁, hw₀, hwaiting, hgoes, hmeanwhile⟩ := ih hstarted
      rw [Activity.plan_hear r (call i) hq] at hgoes
      rw [hact]
      exact ⟨w₀, w', hw₀, hwaiting, .ask hgoes ⟨w, hmeanwhile, hx⟩, .refl⟩
    by_cases hcaller : e.caller? = some i
    · cases e with
      | start j =>
        obtain rfl : j = i := Option.some.inj hcaller
        by_cases hwaiting : w.activity j = .waiting
        · have hplan : ((w.next r call (.start j)).activity j).plan r (call j) =
              (call j).procedure r := by
            rw [World.next_start hwaiting]
            dsimp only
            rw [Function.update_self, Activity.plan_settle, Activity.plan_first]
          rw [hplan]
          exact ⟨w, _, hw, hwaiting, .start, .refl⟩
        · rw [World.next_start_of_ne hwaiting] at hi ⊢
          exact ih hi
      | answer j =>
        obtain rfl : j = i := Option.some.inj hcaller
        cases hq : (w.activity j).asked? with
        | none =>
          rw [World.next_answer_of_none hq] at hi ⊢
          exact ih hi
        | some q =>
          refine hheard hq ?_ (Or.inl ⟨rfl, rfl⟩)
          rw [World.next_answer hq]
          exact Function.update_self ..
      | fail j f =>
        obtain rfl : j = i := Option.some.inj hcaller
        cases hq : (w.activity j).asked? with
        | none =>
          rw [World.next_fail_of_none hq] at hi ⊢
          exact ih hi
        | some q =>
          refine hheard hq ?_ (Or.inr ⟨f, rfl, rfl⟩)
          rw [World.next_fail hq]
          exact Function.update_self ..
      | edit e => cases hcaller
      | delete => cases hcaller
    · rw [World.activity_next_of_ne hcaller] at hi ⊢
      obtain ⟨w₀, w₁, hw₀, hwaiting, hgoes, hmeanwhile⟩ := ih hi
      exact ⟨w₀, w₁, hw₀, hwaiting, hgoes, hmeanwhile.tail ⟨e, hcaller, rfl⟩⟩

/-- A call that is over has run its procedure, to the outcome that it returned. -/
theorem Reaches.runs (hw : Reaches r call admits store w) {outcome : Outcome}
    (hi : w.activity i = .returned outcome) :
    ∃ w₀ w₁, Reaches r call admits store w₀ ∧ w₀.activity i = .waiting ∧
      Plan.Runs (Hears r call i) ((call i).procedure r) (w₀.next r call (.start i)) outcome w₁ ∧
      Meanwhile r call i w₁ w := by
  have hstarted : w.activity i ≠ .waiting := fun h => by
    rw [hi] at h
    cases h
  obtain ⟨w₀, w₁, hw₀, hwaiting, hgoes, hmeanwhile⟩ := hw.goes hstarted
  rw [hi] at hgoes
  exact ⟨w₀, w₁, hw₀, hwaiting, Plan.runs_iff_goes.mpr hgoes, hmeanwhile⟩

/-- **A commit in a world is a run of `Registry.commit`.** -/
theorem Reaches.runs_commit (hw : Reaches r call admits store w) {pod address : String}
    (hcall : call i = .commit pod address) {written : Attempt Unit}
    (hi : w.activity i = .returned (.updated written)) :
    ∃ w₀ w₁, Reaches r call admits store w₀ ∧ w₀.activity i = .waiting ∧
      Plan.Runs (Hears r call i) (r.commit pod address) (w₀.next r call (.start i)) written w₁ ∧
      Meanwhile r call i w₁ w := by
  obtain ⟨w₀, w₁, hw₀, hwaiting, hrun, hmeanwhile⟩ := hw.runs hi
  rw [hcall] at hrun
  obtain ⟨a, w₂, hcommit, hrun⟩ := Plan.runs_bind.mp hrun
  obtain ⟨houtcome, rfl⟩ := Plan.runs_done.mp hrun
  cases houtcome
  exact ⟨w₀, w₁, hw₀, hwaiting, hcommit, hmeanwhile⟩

end

end RingKeeper.Contention
