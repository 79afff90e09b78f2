import Mathlib.Data.List.Basic
import Mathlib.Data.Nat.Find
import RingKeeper.Bootstrap.Rejoin
import RingKeeper.Bootstrap.Replace
import RingKeeper.Proofs.Plan

/-!
# The tries of an operation

1. `IsFinal` are the outcomes after which nothing is tried again. `AreTries` says which outcomes, one
   after the other, are those of all tries, and `Course` that an operation came to them.
   `runs_tryAgain` says that the runs of several tries are such courses, and `runs_tryAgain_ok` that
   a success is that of the last try.
2. `onlyAsks_tryAgain` and `obeys_tryAgain` say that trying again brings no other questions.
3. `Follows` are surroundings in which the outcomes of all tries that may ever be made are fixed in
   advance. `IsCount.eq_of_first` and `IsCount.eq_most` say how many are made, and `course_follows`
   what happens meanwhile.
4. `counting` is the loop that counts its tries, in a number that can only count so far.
   `counting_eq` says that it never counts further.
5. `retry_makes_tries` puts them together, for the retries of the bootstrap too.
-/

namespace RingKeeper

namespace RetryPolicy

open Plan (Exchange Obeys OnlyAsks Runs)

variable {Q S : Type} {A : Q → Type} {α : Type}

/-! ## Outcomes -/

/-- Nothing is tried again after a success, or after a fault whose top kind is one of these. -/
def IsFinal : Attempt α → Prop
  | .ok _ => True
  | .error f => (∃ name, f.kind = .registryNotFound name) ∨
      (∃ problem, f.kind = .environment problem) ∨ ∃ argument, f.kind = .usage argument

/-- The number of tries when none is final. -/
def mostTries (policy : RetryPolicy) : Nat := max policy.attempts 1

/-- The outcomes are those of all tries, the last of which is `a`. -/
structure AreTries (most : Nat) (as : List (Attempt α)) (a : Attempt α) : Prop where
  last : as.getLast? = some a
  atMost : as.length ≤ most
  notFinal : ∀ x ∈ as.dropLast, ¬ IsFinal x
  ends : IsFinal a ∨ as.length = most

/-- The operation comes to these outcomes one after the other, with a pause between any two. -/
inductive Course (react : (q : Q) → S → A q → S → Prop) (pause : Plan Q A Unit)
    (operation : Plan Q A (Attempt α)) : List (Attempt α) → S → S → Prop where
  | once {s s' : S} {a : Attempt α} (h : Runs react operation s a s') :
    Course react pause operation [a] s s'
  | again {s s₁ s₂ s' : S} {a : Attempt α} {as : List (Attempt α)}
    (h : Runs react operation s a s₁) (hpause : Runs react pause s₁ () s₂)
    (hrest : Course react pause operation as s₂ s') : Course react pause operation (a :: as) s s'

variable {react : (q : Q) → S → A q → S → Prop} {pause : Plan Q A Unit}
  {operation : Plan Q A (Attempt α)} {s s' : S} {a b : Attempt α} {as : List (Attempt α)}

theorem isFinal_error {f : Fault} : IsFinal (.error f : Attempt α) ↔ f.isFatal = true := by
  obtain ⟨kind, below, root⟩ := f
  cases kind <;> simp [IsFinal, Fault.isFatal, Fault.Kind.isFatal]

theorem Course.ne_nil (h : Course react pause operation as s s') : as ≠ [] := by
  cases h <;> exact List.cons_ne_nil _ _

theorem course_singleton : Course react pause operation [a] s s' ↔ Runs react operation s a s' := by
  constructor
  · intro h
    cases h with
    | once h => exact h
    | again _ _ hrest => exact absurd rfl hrest.ne_nil
  · exact .once

theorem course_cons : Course react pause operation (a :: b :: as) s s' ↔
    ∃ s₁ s₂, Runs react operation s a s₁ ∧ Runs react pause s₁ () s₂ ∧
      Course react pause operation (b :: as) s₂ s' := by
  constructor
  · intro h
    cases h with
    | again h hpause hrest => exact ⟨_, _, h, hpause, hrest⟩
  · rintro ⟨s₁, s₂, h, hpause, hrest⟩
    exact .again h hpause hrest

theorem areTries_singleton {most : Nat} (hmost : 1 ≤ most) :
    AreTries most [b] a ↔ a = b ∧ (IsFinal a ∨ most = 1) := by
  constructor
  · rintro ⟨hlast, -, -, hends⟩
    exact ⟨(Option.some.inj hlast).symm, hends.imp_right Eq.symm⟩
  · rintro ⟨rfl, hends⟩
    exact ⟨rfl, hmost, nofun, hends.imp_right Eq.symm⟩

theorem areTries_cons {most : Nat} {c : Attempt α} :
    AreTries (most + 1) (b :: c :: as) a ↔ ¬ IsFinal b ∧ AreTries most (c :: as) a := by
  constructor
  · rintro ⟨hlast, hmost, hnot, hends⟩
    obtain ⟨hb, hnot⟩ := List.forall_mem_cons.mp hnot
    exact ⟨hb, hlast, Nat.le_of_succ_le_succ hmost, hnot, hends.imp_right Nat.succ.inj⟩
  · rintro ⟨hb, hlast, hmost, hnot, hends⟩
    exact ⟨hlast, Nat.succ_le_succ hmost, List.forall_mem_cons.mpr ⟨hb, hnot⟩,
      hends.imp_right (congrArg Nat.succ)⟩

theorem runs_tryAgain {more : Nat} : Runs react (tryAgain pause operation more) s a s' ↔
    ∃ as, Course react pause operation as s s' ∧ AreTries (more + 1) as a := by
  induction more generalizing s with
  | zero =>
    constructor
    · intro h
      exact ⟨[a], .once h, (areTries_singleton (Nat.le_refl 1)).mpr ⟨rfl, Or.inr rfl⟩⟩
    · rintro ⟨as, hcourse, htries⟩
      cases hcourse with
      | once h =>
        obtain ⟨rfl, -⟩ := (areTries_singleton (Nat.le_refl 1)).mp htries
        exact h
      | @again _ _ _ _ b as _ _ hrest =>
        have hpos := List.length_pos_iff.mpr hrest.ne_nil
        have hmost : as.length + 1 ≤ 1 := htries.atMost
        omega
  | succ more ih =>
    unfold tryAgain
    rw [Plan.runs_bind]
    constructor
    · rintro ⟨x, s₁, hfirst, h⟩
      cases x with
      | ok b =>
        obtain ⟨rfl, rfl⟩ := Plan.runs_done.mp h
        exact ⟨[.ok b], .once hfirst, (areTries_singleton (by omega)).mpr ⟨rfl, Or.inl trivial⟩⟩
      | error f =>
        dsimp only at h
        split at h
        · rename_i hfatal
          obtain ⟨rfl, rfl⟩ := Plan.runs_done.mp h
          exact ⟨[.error f], .once hfirst,
            (areTries_singleton (by omega)).mpr ⟨rfl, Or.inl (isFinal_error.mpr hfatal)⟩⟩
        · rename_i hfatal
          obtain ⟨u, s₂, hpause, h⟩ := Plan.runs_bind.mp h
          obtain ⟨as, hcourse, htries⟩ := ih.mp h
          obtain ⟨c, as, rfl⟩ := List.exists_cons_of_ne_nil hcourse.ne_nil
          exact ⟨.error f :: c :: as, .again hfirst hpause hcourse,
            areTries_cons.mpr ⟨fun hfinal => hfatal (isFinal_error.mp hfinal), htries⟩⟩
    · rintro ⟨as, hcourse, htries⟩
      cases hcourse with
      | @once _ _ b hfirst =>
        obtain ⟨rfl, hfinal⟩ := (areTries_singleton (by omega)).mp htries
        have hfinal : IsFinal a := hfinal.resolve_right (by omega)
        refine ⟨a, s', hfirst, ?_⟩
        cases a with
        | ok b => exact .done _ _
        | error f =>
          dsimp only
          rw [if_pos (isFinal_error.mp hfinal)]
          exact .done _ _
      | @again _ s₁ s₂ _ b as hfirst hpause hrest =>
        obtain ⟨c, as, rfl⟩ := List.exists_cons_of_ne_nil hrest.ne_nil
        obtain ⟨hb, hrest'⟩ := areTries_cons.mp htries
        refine ⟨b, s₁, hfirst, ?_⟩
        cases b with
        | ok b => exact absurd trivial hb
        | error f =>
          dsimp only
          rw [if_neg fun hfatal => hb (isFinal_error.mpr hfatal)]
          exact Plan.runs_bind.mpr ⟨(), s₂, hpause, ih.mpr ⟨_, hrest, hrest'⟩⟩

theorem runs_retry {policy : RetryPolicy} {sleep : Span → Plan Q A Unit} :
    Runs react (policy.retry sleep operation) s a s' ↔
      ∃ as, Course react (sleep policy.delay) operation as s s' ∧
        AreTries policy.mostTries as a := by
  have hmost : policy.attempts - 1 + 1 = policy.mostTries := by
    unfold mostTries
    omega
  rw [← hmost]
  exact runs_tryAgain

/-- Before the last try is what the other tries and the pauses keep. -/
theorem Course.exists_last {I : S → Prop} (h : Course react pause operation as s s')
    (hlast : as.getLast? = some a)
    (htries : ∀ x ∈ as.dropLast, ∀ s s', Runs react operation s x s' → I s → I s')
    (hpause : ∀ s s', Runs react pause s () s' → I s → I s') (hs : I s) :
    ∃ s₁, I s₁ ∧ Runs react operation s₁ a s' := by
  induction h with
  | once h =>
    obtain rfl := Option.some.inj hlast
    exact ⟨_, hs, h⟩
  | again hfirst hslept hrest ih =>
    rw [List.getLast?_cons_of_ne_nil hrest.ne_nil] at hlast
    rw [List.dropLast_cons_of_ne_nil hrest.ne_nil] at htries
    obtain ⟨htry, htries⟩ := List.forall_mem_cons.mp htries
    exact ih hlast htries (hpause _ _ hslept (htry _ _ hfirst hs))

/-- A success after several tries is the success of one of them, the last. What the tries that
failed keep, and the pauses too, is so when it begins. -/
theorem runs_tryAgain_ok_keeping {I : S → Prop}
    (hfails : ∀ s f s', Runs react operation s (.error f) s' → I s → I s')
    (hpause : ∀ s s', Runs react pause s () s' → I s → I s') {more : Nat} {x : α}
    (hs : I s) (h : Runs react (tryAgain pause operation more) s (.ok x) s') :
    ∃ s₁, I s₁ ∧ Runs react operation s₁ (.ok x) s' := by
  obtain ⟨as, hcourse, htries⟩ := runs_tryAgain.mp h
  refine hcourse.exists_last htries.last (fun y hy t t' hrun => ?_) hpause hs
  cases y with
  | ok y => exact absurd trivial (htries.notFinal _ hy)
  | error f => exact hfails t f t' hrun

theorem runs_tryAgain_ok {more : Nat} {x : α}
    (h : Runs react (tryAgain pause operation more) s (.ok x) s') :
    ∃ s₁, Runs react operation s₁ (.ok x) s' := by
  obtain ⟨s₁, -, hlast⟩ := runs_tryAgain_ok_keeping (I := fun _ => True)
    (fun _ _ _ _ _ => trivial) (fun _ _ _ _ => trivial) trivial h
  exact ⟨s₁, hlast⟩

/-! ## What is asked for -/

theorem onlyAsks_tryAgain {may : Q → Prop} (hpause : OnlyAsks may pause)
    (hoperation : OnlyAsks may operation) (more : Nat) :
    OnlyAsks may (tryAgain pause operation more) := by
  induction more with
  | zero => exact hoperation
  | succ more ih =>
    refine hoperation.bind fun x => ?_
    cases x with
    | ok a => trivial
    | error f =>
      show OnlyAsks may (if f.isFatal then _ else _)
      split
      · trivial
      · exact hpause.bind fun _ => ih

theorem obeys_tryAgain {rule : Q → List (Exchange A) → Prop}
    (hpause : ∀ past, Obeys rule past pause) (hoperation : ∀ past, Obeys rule past operation)
    (more : Nat) (past : List (Exchange A)) : Obeys rule past (tryAgain pause operation more) := by
  induction more generalizing past with
  | zero => exact hoperation past
  | succ more ih =>
    refine (hoperation past).bind fun x past₁ _ => ?_
    cases x with
    | ok a => trivial
    | error f =>
      show Obeys rule past₁ (if f.isFatal then _ else _)
      split
      · trivial
      · exact (hpause past₁).bind fun _ past₂ _ => ih past₂

/-- To carry out the tries of an operation is to try again what carries it out. -/
theorem perform_tryAgain {Q' : Type} {A' : Q' → Type} (answer : (q : Q) → Plan Q' A' (A q))
    (pause : Plan Q A Unit) (operation : Plan Q A (Attempt α)) (more : Nat) :
    (tryAgain pause operation more).perform answer =
      tryAgain (pause.perform answer) (operation.perform answer) more := by
  induction more with
  | zero => rfl
  | succ more ih =>
    unfold tryAgain
    rw [Plan.perform_bind]
    refine congrArg (operation.perform answer >>= ·) (funext fun x => ?_)
    cases x with
    | ok a => rfl
    | error f =>
      dsimp only
      split
      · rfl
      · rw [Plan.perform_bind, ih]

/-! ## Outcomes that are fixed in advance -/

/-- What a retry does: it makes a try, or lets time pass. -/
inductive Deed where
  | call
  | sleep (span : Span)
deriving DecidableEq

/-- A try answers with its outcome. -/
@[reducible] def Deed.Answer (α : Type) : Deed → Type
  | .call => Attempt α
  | .sleep _ => Unit

/-- The tries, counted from zero, have these outcomes. All that is done is noted, in order. -/
def Follows (outcomes : Nat → Attempt α) :
    (q : Deed) → List Deed → q.Answer α → List Deed → Prop
  | .call, done, a, done' => a = outcomes (done.count .call) ∧ done' = done ++ [.call]
  | .sleep span, done, _, done' => done' = done ++ [.sleep span]

/-- A number of tries with a delay between any two. -/
def deedsOf (delay : Span) (n : Nat) : List Deed :=
  (List.replicate (n - 1) [.call, .sleep delay]).flatten ++ [.call]

example (delay : Span) : deedsOf delay 3 = [.call, .sleep delay, .call, .sleep delay, .call] := rfl

def tryOnce (α : Type) : Plan Deed (Deed.Answer α) (Attempt α) := Plan.request Deed.call

def letPass (α : Type) (span : Span) : Plan Deed (Deed.Answer α) Unit :=
  Plan.request (Deed.sleep span)

variable {outcomes : Nat → Attempt α} {done done' : List Deed} {delay : Span} {most : Nat}

theorem deedsOf_succ (delay : Span) {n : Nat} (hn : n ≠ 0) :
    deedsOf delay (n + 1) = [.call, .sleep delay] ++ deedsOf delay n := by
  obtain ⟨m, rfl⟩ := Nat.exists_eq_succ_of_ne_zero hn
  rfl

theorem runs_tryOnce : Runs (Follows outcomes) (tryOnce α) done a done' ↔
    a = outcomes (done.count .call) ∧ done' = done ++ [.call] := by
  unfold tryOnce
  exact Plan.runs_request

theorem runs_letPass : Runs (Follows outcomes) (letPass α delay) done () done' ↔
    done' = done ++ [.sleep delay] := by
  unfold letPass
  exact Plan.runs_request

theorem course_follows :
    Course (Follows outcomes) (letPass α delay) (tryOnce α) as done done' ↔
      as ≠ [] ∧ as = (List.range' (done.count .call) as.length).map outcomes ∧
        done' = done ++ deedsOf delay as.length := by
  induction as generalizing done with
  | nil => exact iff_of_false (fun h => h.ne_nil rfl) fun h => h.1 rfl
  | cons a as ih =>
    cases as with
    | nil =>
      rw [course_singleton, runs_tryOnce]
      simp [deedsOf]
    | cons b as =>
      have hcount (done : List Deed) :
          (done ++ [Deed.call] ++ [Deed.sleep delay]).count .call = done.count .call + 1 := by simp
      have hlength : (b :: as).length ≠ 0 := Nat.succ_ne_zero _
      rw [course_cons, List.length_cons (a := a), List.range'_succ, deedsOf_succ delay hlength]
      simp only [runs_tryOnce, runs_letPass, ih]
      constructor
      · rintro ⟨_, _, ⟨ha, rfl⟩, rfl, -, has, rfl⟩
        rw [hcount] at has
        refine ⟨List.cons_ne_nil a _, ?_, by simp⟩
        rw [List.map_cons, ← ha, ← has]
      · rintro ⟨-, has, rfl⟩
        rw [List.map_cons] at has
        obtain ⟨ha, has⟩ := List.cons.inj has
        refine ⟨_, _, ⟨ha, rfl⟩, rfl, List.cons_ne_nil b as, ?_, by simp⟩
        rw [hcount]
        exact has

/-- The number of tries that are made: up to the first final outcome, or as many as may be. -/
structure IsCount (outcomes : Nat → Attempt α) (most n : Nat) : Prop where
  pos : 0 < n
  atMost : n ≤ most
  notFinal : ∀ i, i + 1 < n → ¬ IsFinal (outcomes i)
  ends : IsFinal (outcomes (n - 1)) ∨ n = most

theorem areTries_map {n : Nat} (hn : 0 < n) :
    AreTries most ((List.range n).map outcomes) a ↔
      IsCount outcomes most n ∧ a = outcomes (n - 1) := by
  obtain ⟨m, rfl⟩ := Nat.exists_eq_add_of_lt hn
  rw [Nat.zero_add, Nat.add_sub_cancel]
  have hsplit : (List.range (m + 1)).map outcomes = (List.range m).map outcomes ++ [outcomes m] := by
    rw [List.range_succ, List.map_append, List.map_singleton]
  rw [hsplit]
  constructor
  · rintro ⟨hlast, hmost, hnot, hends⟩
    rw [List.getLast?_concat] at hlast
    obtain rfl := Option.some.inj hlast
    rw [List.dropLast_concat] at hnot
    rw [List.length_append, List.length_map, List.length_range] at hmost hends
    refine ⟨⟨Nat.succ_pos m, hmost, fun i hi => ?_, hends⟩, rfl⟩
    exact hnot _ (List.mem_map.mpr ⟨i, List.mem_range.mpr (by omega), rfl⟩)
  · rintro ⟨⟨-, hmost, hnot, hends⟩, rfl⟩
    refine ⟨List.getLast?_concat, by simpa using hmost, ?_, by simpa using hends⟩
    rw [List.dropLast_concat]
    intro x hx
    obtain ⟨i, hi, rfl⟩ := List.mem_map.mp hx
    exact hnot i (by simpa using hi)

theorem runs_retry_follows {policy : RetryPolicy} :
    Runs (Follows outcomes) (policy.retry (letPass α) (tryOnce α)) [] a done ↔
      ∃ n, IsCount outcomes policy.mostTries n ∧ a = outcomes (n - 1) ∧
        done = deedsOf policy.delay n := by
  rw [runs_retry]
  constructor
  · rintro ⟨as, hcourse, htries⟩
    obtain ⟨hne, has, rfl⟩ := course_follows.mp hcourse
    rw [List.count_nil, ← List.range_eq_range'] at has
    rw [has] at htries
    obtain ⟨hcount, ha⟩ := (areTries_map (List.length_pos_iff.mpr hne)).mp htries
    exact ⟨as.length, hcount, ha, rfl⟩
  · rintro ⟨n, hcount, ha, rfl⟩
    refine ⟨(List.range n).map outcomes, course_follows.mpr ⟨?_, ?_, ?_⟩,
      (areTries_map hcount.pos).mpr ⟨hcount, ha⟩⟩
    · simpa using Nat.ne_of_gt hcount.pos
    · simp [List.range_eq_range']
    · simp

section
variable {n i : Nat}

theorem IsCount.eq_of_first (h : IsCount outcomes most n) (hi : IsFinal (outcomes i))
    (hbefore : ∀ j < i, ¬ IsFinal (outcomes j)) : n = min (i + 1) most := by
  have hpos := h.pos
  have hmost := h.atMost
  have hlate : n ≤ i + 1 := by
    by_contra hlate
    exact h.notFinal i (by omega) hi
  rcases h.ends with hfinal | hend
  · have hearly : ¬ n - 1 < i := fun hlt => hbefore _ hlt hfinal
    omega
  · omega

theorem IsCount.eq_most (h : IsCount outcomes most n) (hnone : ∀ i, ¬ IsFinal (outcomes i)) :
    n = most := h.ends.resolve_left (hnone _)

theorem exists_isCount (outcomes : Nat → Attempt α) (hmost : 0 < most) :
    ∃ n, IsCount outcomes most n := by
  classical
  by_cases hfinal : ∃ i, IsFinal (outcomes i)
  · have hbefore : ∀ j < Nat.find hfinal, ¬ IsFinal (outcomes j) := fun j => Nat.find_min hfinal
    refine ⟨min (Nat.find hfinal + 1) most, by omega, by omega, fun i hi => hbefore i (by omega), ?_⟩
    by_cases hlate : most ≤ Nat.find hfinal
    · exact Or.inr (by omega)
    · rw [Nat.min_eq_left (by omega), Nat.add_sub_cancel]
      exact Or.inl (Nat.find_spec hfinal)
  · exact ⟨most, hmost, le_rfl, fun i _ hi => hfinal ⟨i, hi⟩, Or.inr rfl⟩

/-- Only one number of tries can be made. -/
theorem IsCount.unique {m : Nat} (hn : IsCount outcomes most n) (hm : IsCount outcomes most m) :
    n = m := by
  classical
  by_cases hfinal : ∃ i, IsFinal (outcomes i)
  · have hbefore : ∀ j < Nat.find hfinal, ¬ IsFinal (outcomes j) := fun j => Nat.find_min hfinal
    rw [hn.eq_of_first (Nat.find_spec hfinal) hbefore, hm.eq_of_first (Nat.find_spec hfinal) hbefore]
  · rw [hn.eq_most fun i hi => hfinal ⟨i, hi⟩, hm.eq_most fun i hi => hfinal ⟨i, hi⟩]

end

/-! ## Counting the tries -/

/-- The loop that counts its tries, in a number that cannot go beyond `limit`; nothing comes of it
where it would have to. -/
def counting (policy : RetryPolicy) (pause : Plan Q A Unit) (operation : Plan Q A (Attempt α))
    (limit count : Nat) : Plan Q A (Option (Attempt α)) :=
  if _ : count < limit then do
    match ← operation with
    | .ok a => return some (.ok a)
    | .error f =>
      if f.isFatal then return some (.error f)
      else if policy.attempts ≤ count + 1 then return some (.error f)
      else
        pause
        counting policy pause operation limit (count + 1)
  else return none
termination_by limit - count

/-- The count stays within the tries that may be made. -/
theorem counting_eq {policy : RetryPolicy} {limit count more : Nat}
    (hlimit : policy.mostTries ≤ limit) (hmore : count + (more + 1) = policy.mostTries) :
    counting policy pause operation limit count =
      (do return some (← tryAgain pause operation more)) := by
  induction more generalizing count with
  | zero =>
    rw [counting, dif_pos (by omega)]
    have hlast : policy.attempts ≤ count + 1 := by
      unfold mostTries at hmore
      omega
    unfold tryAgain
    refine congrArg (operation >>= ·) (funext fun x => ?_)
    cases x with
    | ok a => rfl
    | error f =>
      dsimp only
      rw [if_pos hlast]
      split <;> rfl
  | succ more ih =>
    rw [counting, dif_pos (by omega)]
    have hagain : ¬ policy.attempts ≤ count + 1 := by
      unfold mostTries at hmore
      omega
    unfold tryAgain
    rw [Plan.bind_assoc]
    refine congrArg (operation >>= ·) (funext fun x => ?_)
    cases x with
    | ok a => rfl
    | error f =>
      dsimp only
      rw [if_neg hagain]
      split
      · rfl
      · rw [Plan.bind_assoc, ih (by omega)]

/-! ## Retries -/

/-- Every run of the plan is a course of tries of the operation, none of which follows one that found
no registry. -/
def StopsAtMissing (sleep : Span → Plan Q A Unit) (operation plan : Plan Q A (Attempt α))
    (delay : Span) : Prop :=
  ∀ {S : Type} (react : (q : Q) → S → A q → S → Prop) (s s' : S) (a : Attempt α),
    Runs react plan s a s' → ∃ as, Course react (sleep delay) operation as s s' ∧
      as.getLast? = some a ∧
      ∀ f name, .error f ∈ as.dropLast → f.kind ≠ .registryNotFound name

theorem stopsAtMissing_retry (policy : RetryPolicy) (sleep : Span → Plan Q A Unit)
    (operation : Plan Q A (Attempt α)) :
    StopsAtMissing sleep operation (policy.retry sleep operation) policy.delay := by
  intro S react s s' a h
  obtain ⟨as, hcourse, htries⟩ := runs_retry.mp h
  refine ⟨as, hcourse, htries.last, fun f name hf hkind => ?_⟩
  exact htries.notFinal _ hf (Or.inl ⟨name, hkind⟩)

/--
**A retry makes exactly the tries it should.** Let the outcomes of all tries that may ever be made be
given.

- Within a message no fault is final, whatever it is.
- With `n` the number of tries up to the first final outcome, or as many as the policy allows (one in
  any case) if that is less or there is none, the retry comes to its end in one way: with the `n`th
  outcome, after `n` tries and the delay between any two.
- Counting the tries in a number that holds the number of tries that may be made changes nothing: no
  count is beyond it.
- In any surroundings, the decision whether to replace is not tried again when the registry was not
  found, and neither is the commit of an address.
-/
theorem retry_makes_tries (policy : RetryPolicy) (outcomes : Nat → Attempt α) :
    (∀ (f : Fault) (text : String), ¬ IsFinal (.error (f.within (.message text)) : Attempt α)) ∧
    (∃ n, (∀ i, IsFinal (outcomes i) → (∀ j < i, ¬ IsFinal (outcomes j)) →
        n = min (i + 1) (max policy.attempts 1)) ∧
      ((∀ i, ¬ IsFinal (outcomes i)) → n = max policy.attempts 1) ∧
      ∀ a done, Runs (Follows outcomes) (policy.retry (letPass α) (tryOnce α)) [] a done ↔
        a = outcomes (n - 1) ∧ done = deedsOf policy.delay n) ∧
    (∀ limit, max policy.attempts 1 ≤ limit →
      ∀ {Q : Type} {A : Q → Type} (sleep : Span → Plan Q A Unit)
        (operation : Plan Q A (Attempt α)),
        counting policy (sleep policy.delay) operation limit 0 =
          (do return some (← policy.retry sleep operation))) ∧
    ∀ b : Bootstrap, StopsAtMissing Bootstrap.sleep b.markReplacement b.prepare b.policy.delay ∧
      StopsAtMissing Bootstrap.sleep
        (Bootstrap.inStore (b.registry.commit b.settings.podName b.settings.podIp))
        b.commit b.policy.delay := by
  refine ⟨fun f text => ?_, ?_, fun limit hlimit Q A sleep operation => ?_, fun b => ⟨?_, ?_⟩⟩
  · rw [isFinal_error, Fault.isFatal_within]
    exact Bool.false_ne_true
  · have hmost : 0 < policy.mostTries := by
      unfold mostTries
      omega
    obtain ⟨n, hcount⟩ := exists_isCount outcomes hmost
    refine ⟨n, fun i hi hbefore => hcount.eq_of_first hi hbefore, hcount.eq_most,
      fun a done => ?_⟩
    rw [runs_retry_follows]
    constructor
    · rintro ⟨m, hm, ha, hdone⟩
      obtain rfl := hm.unique hcount
      exact ⟨ha, hdone⟩
    · exact fun h => ⟨n, hcount, h⟩
  · refine counting_eq hlimit ?_
    unfold mostTries
    omega
  · exact stopsAtMissing_retry b.policy Bootstrap.sleep b.markReplacement
  · exact stopsAtMissing_retry b.policy Bootstrap.sleep _

/-- The registry is changed by others twice, and then it is gone. -/
def vanishing : Nat → Attempt Unit
  | 0 => .error (.ofKind (.conflict "ring"))
  | 1 => .error (.ofKind (.conflict "ring"))
  | _ => .error (.ofKind (.registryNotFound "ring"))

/-- Of ten tries that may be made, three are. -/
theorem retry_makes_tries_vanishing :
    IsFinal (vanishing 2) ∧ (∀ j < 2, ¬ IsFinal (vanishing j)) ∧
      Runs (Follows vanishing) (standard.retry (letPass Unit) (tryOnce Unit)) []
        (.error (.ofKind (.registryNotFound "ring")))
        [.call, .sleep (.ofSeconds 3), .call, .sleep (.ofSeconds 3), .call] := by
  have hfinal : IsFinal (vanishing 2) := Or.inl ⟨"ring", rfl⟩
  have hbefore : ∀ j < 2, ¬ IsFinal (vanishing j) := by
    intro j hj hfinal
    match j with
    | 0 => cases isFinal_error.mp hfinal
    | 1 => cases isFinal_error.mp hfinal
    | j + 2 => omega
  obtain ⟨-, ⟨n, hfirst, -, hruns⟩, -⟩ := retry_makes_tries standard vanishing
  obtain rfl : n = 3 := hfirst 2 hfinal hbefore
  exact ⟨hfinal, hbefore, (hruns _ _).mpr ⟨rfl, rfl⟩⟩

end RetryPolicy

end RingKeeper
