import Mathlib.Logic.Function.Basic
import Mathlib.Logic.Relation
import RingKeeper.Proofs.Bootstrap.Stages
import RingKeeper.Proofs.Registry.Contention

/-!
# Jobs beside each other

Any number of nodes go through any number of lives, and in each life some of the jobs of a bootstrap
are done. The jobs of all lives share one registry, and in between their questions anything else may
happen, but nobody else writes the data of the registry.

1. A script is a procedure whose questions are marked: whether they belong to the part of a commit
   that records the address. `Job.plain_script` says that the scripts of the jobs are their
   procedures.
2. `World` is the registry, what is left of each job, and the whole history. `World.Becomes` are the
   ways in which a world goes on. A job that does not go on has been given up.
3. What a job asks in a world, and how it is answered, are the steps of its script
   (`World.goes_of_reaches`); without the marks it is a run of `markReplacement`, `prepare` or
   `rejoinWithin`, if it has come to its end (`World.Reaches.runs`, `World.Reaches.runs_rejoin`).
-/

namespace RingKeeper.Bootstrap

open Plan (Exchange Goes Notes Runs)

/-! ## Scripts -/

/-- A question, and whether it belongs to the part of a commit that records the address. -/
structure Step where
  question : Question
  recording : Bool

abbrev Step.Answer (s : Step) : Type := Bootstrap.Answer s.question

/-- A procedure whose questions are marked. -/
abbrev Script (α : Type) : Type := Plan Step Step.Answer α

variable {α β : Type}

/-- The procedure with all its questions marked alike. -/
def marked (recording : Bool) (p : Procedure α) : Script α :=
  p.perform fun q => .request ⟨q, recording⟩

/-- The procedure without the marks. -/
def plain (p : Script α) : Procedure α := p.perform fun s : Step => ask s.question

theorem plain_marked (recording : Bool) (p : Procedure α) : plain (marked recording p) = p := by
  induction p with
  | done a => rfl
  | ask q next ih => exact congrArg (Plan.ask q) (funext ih)

theorem marked_bind (recording : Bool) (p : Procedure α) (k : α → Procedure β) :
    marked recording (p >>= k) = marked recording p >>= fun a => marked recording (k a) :=
  Plan.perform_bind _ p k

/-- An exchange without the mark of its question. -/
def unmarked (e : Exchange Step.Answer) : Exchange Answer := ⟨e.1.question, e.2⟩

/-- Without its marks a script goes on as its procedure. -/
theorem goes_plain {p p' : Script α} {past past' : List (Exchange Step.Answer)}
    (h : Goes Notes p past p' past') :
    Goes Notes (plain p) (past.map unmarked) (plain p') (past'.map unmarked) := by
  induction h with
  | start => exact .start
  | @ask s next noted past' x h hreact ih =>
    obtain rfl : past' = ⟨s, x⟩ :: noted := hreact
    have hplain : plain (.ask s next) = .ask s.question fun x => plain (next x) := rfl
    rw [hplain] at ih
    exact .ask ih rfl

theorem plain_bind (p : Script α) (k : α → Script β) :
    plain (p >>= k) = plain p >>= fun a => plain (k a) :=
  Plan.perform_bind _ p k

theorem inStore_bind (p : Registry.Procedure α) (k : α → Registry.Procedure β) :
    inStore (p >>= k) = inStore p >>= fun a => inStore (k a) :=
  Plan.perform_bind _ p k

/-- A commit, with the part marked that records the address. -/
def commitScript (b : Bootstrap) : Script (Attempt Unit) := do
  match ← marked false (inStore (b.registry.acquire b.settings.podName)) with
  | .error f => return .error f
  | .ok guard =>
    let written ←
      marked true (inStore (b.registry.putAddress b.settings.podName b.settings.podIp))
    let _ ← marked false (inStore guard.release)
    return written

/-- What a node does once it is up. -/
def settleScript (b : Bootstrap) : Script (Attempt Unit) := do
  match ← b.policy.retry (fun span => marked false (sleep span)) b.commitScript with
  | .error f => return .error (f.within commitContext)
  | .ok () => marked false (b.writeMarker "")

def rejoinScript (b : Bootstrap) (timeout : Span) : Script (Attempt Unit) := do
  if ← marked false (b.comesUp timeout) then b.settleScript
  else return .error (.ofKind (.rejoinTimeout b.settings.podIp))

theorem plain_commitScript (b : Bootstrap) :
    plain b.commitScript = inStore (b.registry.commit b.settings.podName b.settings.podIp) := by
  unfold commitScript Registry.commit
  rw [plain_bind, plain_marked, inStore_bind]
  refine congrArg (inStore _ >>= ·) (funext fun x => ?_)
  cases x with
  | error f => rfl
  | ok guard =>
    dsimp only
    rw [plain_bind, plain_marked, inStore_bind]
    refine congrArg (inStore _ >>= ·) (funext fun written => ?_)
    rw [plain_bind, plain_marked, inStore_bind]
    rfl

theorem plain_rejoinScript (b : Bootstrap) (timeout : Span) :
    plain (b.rejoinScript timeout) = b.rejoinWithin timeout := by
  have hcommit : plain (b.policy.retry (fun span => marked false (sleep span)) b.commitScript) =
      b.commit := by
    unfold commit RetryPolicy.retry
    rw [← plain_commitScript, ← plain_marked false (sleep b.policy.delay)]
    exact RetryPolicy.perform_tryAgain _ _ _ _
  unfold rejoinScript rejoinWithin
  rw [plain_bind, plain_marked]
  refine congrArg (b.comesUp timeout >>= ·) (funext fun up => ?_)
  cases up with
  | false => rfl
  | true =>
    rw [if_pos rfl, if_pos rfl]
    unfold settleScript
    rw [plain_bind, hcommit]
    refine congrArg (b.commit >>= ·) (funext fun x => ?_)
    cases x with
    | error f => rfl
    | ok u => exact plain_marked false _

/-! ## Jobs -/

/-- What may be done in a life of a node. -/
inductive Job where
  /-- Decides once whether to replace. -/
  | decide
  /-- Decides, and tries again as the policy says. -/
  | prepare
  | rejoin (timeout : Span)

namespace Job

def procedure (b : Bootstrap) : Job → Procedure Unit
  | decide => do
    let _ ← b.markReplacement
    return ()
  | prepare => do
    let _ ← b.prepare
    return ()
  | rejoin timeout => do
    let _ ← b.rejoinWithin timeout
    return ()

def script (b : Bootstrap) : Job → Script Unit
  | rejoin timeout => do
    let _ ← b.rejoinScript timeout
    return ()
  | job => marked false (job.procedure b)

/-- **The script of a job is its procedure.** -/
theorem plain_script (b : Bootstrap) (job : Job) : plain (job.script b) = job.procedure b := by
  cases job with
  | rejoin timeout =>
    show plain (b.rejoinScript timeout >>= fun _ => pure ()) = _
    rw [plain_bind, plain_rejoinScript]
    rfl
  | _ => exact plain_marked false _

/-- Whether the job decides about a replacement. -/
def Decides : Job → Prop
  | rejoin _ => False
  | _ => True

end Job

/-! ## Worlds -/

/-- What was asked by whom, and how it was answered, latest first. -/
abbrev History (ι : Type) : Type := List (ι × Exchange Step.Answer)

/-- What a job has asked and how it was answered. -/
def pastOf {ι : Type} [DecidableEq ι] (i : ι) (history : History ι) : List (Exchange Step.Answer) :=
  (history.filter fun e => decide (e.1 = i)).map (·.2)

structure World (ι : Type) where
  store : Registry.Store
  /-- What is left of each job. -/
  rest : ι → Script Unit
  history : History ι

section
variable {ι : Type} [DecidableEq ι]

theorem pastOf_cons_self (i : ι) (e : Exchange Step.Answer) (history : History ι) :
    pastOf i ((i, e) :: history) = e :: pastOf i history := by
  unfold pastOf
  rw [List.filter_cons_of_pos (by simp), List.map_cons]

theorem pastOf_cons_of_ne {i j : ι} (h : i ≠ j) (e : Exchange Step.Answer) (history : History ι) :
    pastOf j ((i, e) :: history) = pastOf j history := by
  unfold pastOf
  rw [List.filter_cons_of_neg (by simpa using h)]

namespace World

/-- No job has asked for anything yet. -/
def fresh (b : ι → Bootstrap) (job : ι → Job) (store : Registry.Store) : World ι :=
  ⟨store, fun i => (job i).script (b i), []⟩

/-- The job gets an answer and goes on with the rest, while the store becomes this one. -/
def hear (w : World ι) (i : ι) (s : Step) (x : s.Answer) (rest : Script Unit)
    (store : Registry.Store) : World ι :=
  ⟨store, Function.update w.rest i rest, (i, ⟨s, x⟩) :: w.history⟩

/-- The ways in which a world goes on. -/
inductive Becomes (w : World ι) : World ι → Prop where
  /-- The store answers a call. -/
  | answered (i : ι) {call : Registry.Question} {recording : Bool}
    {next : Registry.Answer call → Script Unit}
    (h : w.rest i = .ask ⟨.store call, recording⟩ next) :
    Becomes w (w.hear i ⟨.store call, recording⟩ (w.store.answer call).1
      (next (w.store.answer call).1) (w.store.answer call).2)
  /-- A call to the store fails and is not applied. -/
  | failed (i : ι) {call : Registry.Question} {recording : Bool}
    {next : Registry.Answer call → Script Unit}
    (h : w.rest i = .ask ⟨.store call, recording⟩ next) (f : Fault) :
    Becomes w (w.hear i ⟨.store call, recording⟩ (.error f) (next (.error f)) w.store)
  /-- A question that is not for the store is answered in any way. -/
  | elsewhere (i : ι) {s : Step} {next : s.Answer → Script Unit} (h : w.rest i = .ask s next)
    (hs : s.question.isCall = false) (x : s.Answer) : Becomes w (w.hear i s x (next x) w.store)
  /-- Someone else changes the configmap, but not its data. -/
  | edited (e : Contention.ForeignEdit) (he : ∀ data, e.data data = data) {c : ConfigMap}
    {version : Nat} (h : w.store.stored = some (c, version)) :
    Becomes w { w with store := ⟨some (e.apply (c.atVersion version), version + 1)⟩ }
  /-- Someone else deletes the configmap. -/
  | deleted : Becomes w { w with store := ⟨none⟩ }

/-- The worlds that come of a fresh one. -/
def Reaches (b : ι → Bootstrap) (job : ι → Job) (store : Registry.Store) (w : World ι) : Prop :=
  Relation.ReflTransGen Becomes (fresh b job store) w

/-- The next step of a job, if it asks the store or this is an answer. -/
def go (respond : (q : Question) → Option (Answer q)) (w : World ι) (i : ι) : World ι :=
  match w.rest i with
  | .done _ => w
  | .ask ⟨.store call, recording⟩ next =>
    w.hear i ⟨.store call, recording⟩ (w.store.answer call).1 (next (w.store.answer call).1)
      (w.store.answer call).2
  | .ask s next =>
    match respond s.question with
    | some x => w.hear i s x (next x) w.store
    | none => w

/-- One step after the other, by these jobs. -/
def run (respond : (q : Question) → Option (Answer q)) (w : World ι) (turns : List ι) : World ι :=
  turns.foldl (go respond) w

variable {b : ι → Bootstrap} {job : ι → Job} {store : Registry.Store} {w : World ι}

theorem Reaches.go (hw : Reaches b job store w) (respond : (q : Question) → Option (Answer q))
    (i : ι) : Reaches b job store (w.go respond i) := by
  unfold World.go
  split
  · exact hw
  · rename_i hrest
    exact hw.tail (.answered i hrest)
  · rename_i s next hother hrest
    have hs : s.question.isCall = false := by
      obtain ⟨q, recording⟩ := s
      cases q <;> first | rfl | exact (hother _ _ next rfl HEq.rfl).elim
    split
    · exact hw.tail (.elsewhere i hrest hs _)
    · exact hw

theorem Reaches.run (hw : Reaches b job store w) (respond : (q : Question) → Option (Answer q))
    (turns : List ι) : Reaches b job store (w.run respond turns) := by
  induction turns generalizing w with
  | nil => exact hw
  | cons i turns ih => exact ih (hw.go respond i)

/-! ## The steps of a job -/

theorem goes_hear {i j : ι} {s : Step} {next : s.Answer → Script Unit}
    (hrest : w.rest i = .ask s next)
    (h : ∀ j, Goes Notes ((job j).script (b j)) [] (w.rest j) (pastOf j w.history)) (x : s.Answer)
    (store : Registry.Store) :
    Goes Notes ((job j).script (b j)) [] ((w.hear i s x (next x) store).rest j)
      (pastOf j (w.hear i s x (next x) store).history) := by
  by_cases hj : i = j
  · subst hj
    have hi := h i
    rw [hrest] at hi
    show Goes Notes _ [] (Function.update w.rest i (next x) i) (pastOf i (_ :: _))
    rw [pastOf_cons_self, Function.update_self]
    exact .ask hi rfl
  · show Goes Notes _ [] (Function.update w.rest i (next x) j) (pastOf j (_ :: _))
    rw [pastOf_cons_of_ne hj, Function.update_of_ne (Ne.symm hj)]
    exact h j

/-- **The steps of a job are those of its script.** -/
theorem goes_of_reaches (hw : Reaches b job store w) (i : ι) :
    Goes Notes ((job i).script (b i)) [] (w.rest i) (pastOf i w.history) := by
  induction hw generalizing i with
  | refl => exact .start
  | tail _ hstep ih =>
    cases hstep with
    | answered j hrest => exact goes_hear hrest ih _ _
    | failed j hrest f => exact goes_hear hrest ih _ _
    | elsewhere j hrest hs x => exact goes_hear hrest ih x _
    | edited e he h => exact ih i
    | deleted => exact ih i

/-- **A job in a world is a run of its procedure**, if it has come to its end. -/
theorem Reaches.runs (hw : Reaches b job store w) {i : ι} (hover : w.rest i = .done ()) :
    Runs Notes ((job i).procedure (b i)) [] () ((pastOf i w.history).map unmarked) := by
  have hgoes := goes_plain (goes_of_reaches hw i)
  rw [Job.plain_script, hover] at hgoes
  exact Plan.runs_iff_goes.mpr hgoes

theorem Reaches.runs_rejoin (hw : Reaches b job store w) {i : ι} {timeout : Span}
    (hjob : job i = .rejoin timeout) (hover : w.rest i = .done ()) :
    ∃ a, Runs Notes ((b i).rejoinWithin timeout) [] a ((pastOf i w.history).map unmarked) := by
  have hrun := hw.runs hover
  rw [hjob] at hrun
  obtain ⟨a, past, hrejoin, hrun⟩ := Plan.runs_bind.mp hrun
  obtain ⟨-, hpast⟩ := Plan.runs_done.mp hrun
  exact ⟨a, hpast ▸ hrejoin⟩

end World

end

end RingKeeper.Bootstrap
