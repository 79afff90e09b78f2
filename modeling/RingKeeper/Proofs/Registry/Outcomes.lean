import RingKeeper.Proofs.Registry.Contest
import RingKeeper.Proofs.Registry.Exclusion
import RingKeeper.Proofs.Registry.History
import RingKeeper.Proofs.Registry.Turns

/-!
# What a contest comes to

1. `race_has_one_winner` is about calls that take the lock and keep it: one of them wins, and all the
   others name it.
2. `commits_make_progress` is about commits: each ends well, or was turned away before it took the
   lock; not all of them are turned away, and in the end the lock is free.
-/

namespace RingKeeper.Contention

open Registry
open Rehearsal (Call Outcome)

variable {ι : Type} {r : Registry} {w w' : World ι} {e : Event ι}

/-! ## Calls that keep the lock -/

theorem not_freesFor_acquire (name holder : String) (written : Option (Attempt Unit)) :
    ¬ (Call.acquire name).FreesFor holder written := by
  cases written with
  | none => exact fun h => nomatch h
  | some w =>
    rintro ⟨address, h⟩
    cases h

theorem not_commits_acquire (name holder : String) : ¬ Commits (.acquire name) holder := by
  rintro ⟨address, h⟩
  cases h

section
variable {name : String} {made : Bool} {a b : Activity} {seen : Option ConfigMap}

/-- A call that only takes the lock goes on while it is taking it, and has it once it has written. -/
theorem Moves.of_acquire (h : Moves r (.acquire name) made a b)
    (ha : Follows r (.acquire name) seen a) :
    a.leg = .taking ∧ ¬ a.HasTaken ∧ (b.HasTaken ↔ made = true) := by
  cases h with
  | reads => exact nomatch ha.1
  | hasRead h hcall => exact nomatch hcall
  | takes => exact ⟨rfl, id, False.elim, fun h => nomatch h⟩
  | @hasTaken made rest holder taken hcall h =>
    refine ⟨rfl, id, ?_⟩
    cases made with
    | true =>
      obtain rfl : taken = .ok ⟨r, holder⟩ := h
      exact ⟨fun _ => rfl, fun _ => trivial⟩
    | false =>
      obtain ⟨f, rfl⟩ := h
      exact ⟨False.elim, fun h => nomatch h⟩
  | writes =>
    obtain ⟨pod, address, hcall, -⟩ := ha
    cases hcall
  | hasWritten h =>
    obtain ⟨pod, address, hcall, -⟩ := ha
    cases hcall
  | frees =>
    obtain ⟨holder, hcall, -⟩ := ha
    exact (not_freesFor_acquire _ _ _ hcall).elim
  | hasFreed h =>
    obtain ⟨holder, hcall, -⟩ := ha
    exact (not_freesFor_acquire _ _ _ hcall).elim

end

variable {holder : ι → String} {first : ConfigMap × Nat}

/-- A call that keeps the lock and came back without it names whoever has taken it. -/
theorem Without.names_winner {j : ι} {outcome : Outcome}
    (h : Without r (fun i => .acquire (holder i)) holder w j (w.activity j))
    (hreturned : w.activity j = .returned outcome) :
    ∃ k, k ≠ j ∧ Taken w k ∧
      outcome = .acquired (.error (.ofKind (.lockHeld r.name (holder k)))) := by
  rw [hreturned] at h
  generalize ha : Activity.returned outcome = a at h
  cases h with
  | @lost k other taken =>
    cases ha
    exact ⟨k, other, taken, rfl⟩
  | late taken commits => exact absurd commits (not_commits_acquire _ _)
  | committed commits => exact absurd commits (not_commits_acquire _ _)
  | _ => cases ha

/-- A call that keeps the lock and has taken it came back with it. -/
theorem Holds.has_won {i : ι}
    (h : Holds r (fun i => .acquire (holder i)) holder w i (w.activity i)) :
    w.activity i = .returned (.acquired (.ok ⟨r, holder i⟩)) := by
  generalize w.activity i = a at h
  cases h with
  | took => rfl
  | recording hcall hread => cases hcall
  | recorded commits => exact absurd commits (not_commits_acquire _ _)
  | leaving commits hread => exact absurd commits (not_commits_acquire _ _)

/-- The registry with the lock taken by this holder, one version further. -/
def takenBy (first : ConfigMap × Nat) (name : String) : Store :=
  ⟨some ((first.1.atVersion first.2).lockFor name, first.2 + 1)⟩

/-- Until someone has taken the lock nothing is written, and after that nothing is written again. -/
def WrittenOnce (first : ConfigMap × Nat) (holder : ι → String) (w : World ι) : Prop :=
  (w.store = ⟨some first⟩ ∧ ∀ k, ¬ Taken w k) ∨ ∃ k, Taken w k ∧ w.store = takenBy first (holder k)

theorem WrittenOnce.of_eq (h : WrittenOnce first holder w) (hstore : w'.store = w.store)
    (htaken : ∀ k, Taken w' k ↔ Taken w k) : WrittenOnce first holder w' := by
  rcases h with ⟨hfirst, hnone⟩ | ⟨k, hk, htake⟩
  · exact Or.inl ⟨hstore.trans hfirst, fun k hk => hnone k ((htaken k).mp hk)⟩
  · exact Or.inr ⟨k, (htaken k).mpr hk, hstore.trans htake⟩

variable [DecidableEq ι]

/-- Who has taken the lock is the same if one call goes on and has or has not, as before. -/
theorem taken_update {i : ι} {a : Activity} (hactivity : w'.activity = Function.update w.activity i a)
    (ha : a.HasTaken ↔ Taken w i) (k : ι) : Taken w' k ↔ Taken w k := by
  unfold Taken
  rw [hactivity]
  by_cases hk : k = i
  · subst hk
    rw [Function.update_self]
    exact ha
  · rw [Function.update_of_ne hk]

theorem taken_self {i : ι} {a : Activity} (hactivity : w'.activity = Function.update w.activity i a)
    (ha : a.HasTaken) : Taken w' i := by
  unfold Taken
  rw [hactivity, Function.update_self]
  exact ha

theorem WrittenOnce.step (hne : ∀ i, holder i ≠ "") (hinj : Function.Injective holder)
    (hs : Sound r (fun i => .acquire (holder i)) w) (h : WrittenOnce first holder w)
    (he : Undisturbed w e) (hb : Becomes r (fun i => .acquire (holder i)) w e w') :
    WrittenOnce first holder w' := by
  cases hb with
  | same => exact h
  | started i hi =>
    have hnot := not_taken_of_waiting hi
    exact h.of_eq rfl (taken_update rfl ⟨False.elim, fun htaken => (hnot htaken).elim⟩)
  | heard i hseen hfollows hmoves =>
    obtain ⟨-, hnot, htook⟩ := hmoves.of_acquire (hs.follows i)
    exact h.of_eq rfl (taken_update rfl
      ⟨fun ha => (nomatch htook.mp ha), fun htaken => (hnot htaken).elim⟩)
  | wrote i hstored hseen hpermits hfollows hmoves =>
    obtain ⟨hleg, hnot, htook⟩ := hmoves.of_acquire (hs.follows i)
    rw [hleg] at hpermits ⊢
    obtain ⟨name, htakes, hopen⟩ := hpermits
    obtain rfl : holder i = name := Option.some.inj htakes.holder?_eq
    rcases h with ⟨hfirst, -⟩ | ⟨k, hk, htake⟩
    · rw [hfirst] at hstored
      cases hstored
      exact Or.inr ⟨i, taken_self rfl (htook.mpr rfl), rfl⟩
    · -- the lock is someone else's already, so this call may not take it
      rw [htake] at hstored
      cases hstored
      have hlock : holder k = "" ∨ holder k = holder i := by
        rwa [ConfigMap.lockedBy_atVersion, ConfigMap.lockedBy_lockFor] at hopen
      rcases hlock with hempty | hsame
      · exact absurd hempty (hne k)
      · exact absurd (hinj hsame ▸ hk) hnot
  | edited e hstored => exact he.elim
  | deleted => exact he.elim

/--
**One winner.** Of any number of calls that take the free lock and keep it, however they interleave,
one gets the lock, and all the others come back with its name; the lock names it too, and nothing
else was written. And every call that gets its turns comes back.
-/
theorem race_has_one_winner [Nonempty ι] (r : Registry) (hne : ∀ i, holder i ≠ "")
    (hinj : Function.Injective holder) (hname : first.1.metadata.name = some r.name)
    (hfree : first.1.lockedBy = "")
    (hw : Reaches r (fun i => .acquire (holder i)) Undisturbed ⟨some first⟩ w) :
    ((∀ i, ∃ outcome, w.activity i = .returned outcome) →
      ∃ i, w.activity i = .returned (.acquired (.ok ⟨r, holder i⟩)) ∧
        (∀ j, j ≠ i → w.activity j =
          .returned (.acquired (.error (.ofKind (.lockHeld r.name (holder i)))))) ∧
        w.store.stored =
          some ((first.1.atVersion first.2).lockFor (holder i), first.2 + 1)) ∧
      ∀ i events, (turns i).Sublist events →
        ∃ outcome, (w.run r (fun i => .acquire (holder i)) events).activity i =
          .returned outcome := by
  refine ⟨fun hall => ?_, fun i events hturns => returns_of_turns hw hturns⟩
  have honce : WrittenOnce first holder w :=
    hw.invariant (Or.inl ⟨rfl, fun k => id⟩) fun hs h he hb => h.step hne hinj hs he hb
  have hnot (k : ι) (h : Without r (fun i => .acquire (holder i)) holder w k (w.activity k)) :
      ¬ Taken w k := by
    intro hk
    have hcommits := h.commits_of_hasTaken (Or.inl rfl) hk
    exact not_commits_acquire _ _ hcommits
  cases contested_of_reaches (fun i => Or.inl rfl) hne hinj hname hfree hw with
  | free hlock h =>
    obtain ⟨i⟩ := ‹Nonempty ι›
    obtain ⟨outcome, hi⟩ := hall i
    obtain ⟨k, -, hk, -⟩ := (h i).names_winner hi
    exact absurd hk (hnot k (h k))
  | held i hlock hi hothers =>
    have honly (k : ι) (hk : Taken w k) : k = i := by
      by_contra hki
      exact hnot k (hothers k hki) hk
    refine ⟨i, hi.has_won, fun j hj => ?_, ?_⟩
    · obtain ⟨outcome, hreturned⟩ := hall j
      obtain ⟨k, -, hk, rfl⟩ := (hothers j hj).names_winner hreturned
      rw [hreturned, honly k hk]
    · rcases honce with ⟨-, hnone⟩ | ⟨k, hk, htake⟩
      · exact absurd (hi.hasTaken (Or.inl rfl)) (hnone i)
      · rw [htake, honly k hk]
        rfl

def podName (first : Bool) : String := if first then "pod-0" else "pod-1"

theorem podName_ne (first : Bool) : podName first ≠ "" := by
  cases first <;> decide

theorem podName_injective : Function.Injective podName := by
  intro i j h
  cases i <;> cases j <;> first | rfl | exact absurd h (by decide)

theorem race_has_one_winner_rivals :
    ∃ i, rivalsRun.activity i = .returned (.acquired (.ok ⟨⟨"registry"⟩, podName i⟩)) ∧
      (∀ j, j ≠ i → rivalsRun.activity j =
        .returned (.acquired (.error (.ofKind (.lockHeld "registry" (podName i)))))) ∧
      rivalsRun.store.stored =
        some ((emptyRegistry.atVersion 1).lockFor (podName i), 2) := by
  have hreached : Reaches ⟨"registry"⟩ rivals Undisturbed unlocked rivalsRun :=
    Reaches.start.run ⟨trivial, trivial, trivial, trivial, trivial, trivial, trivial, trivial⟩
  have hall (i : Bool) : ∃ outcome, rivalsRun.activity i = .returned outcome := by
    cases i <;> exact ⟨_, rfl⟩
  exact (race_has_one_winner ⟨"registry"⟩ podName_ne podName_injective rfl rfl hreached).1 hall

/-! ## Commits -/

section
variable {pod address : ι → String} {i : ι}

omit [DecidableEq ι]

/-- The ways in which a commit may end: it is done, or it was turned away. -/
inductive EndsWell (r : Registry) (pod : ι → String) (i : ι) : Outcome → Prop where
  | done : EndsWell r pod i (.updated (.ok ()))
  | lost {j : ι} (other : j ≠ i) :
    EndsWell r pod i (.updated (.error (.ofKind (.lockHeld r.name (pod j)))))
  | late : EndsWell r pod i (.updated (.error (.ofKind (.conflict r.name))))

/-- A commit that is over is without the lock. -/
theorem Holds.not_returned {outcome : Outcome} :
    ¬ Holds r (fun i => .commit (pod i) (address i)) pod w i (.returned outcome) := by
  intro h
  generalize ha : Activity.returned outcome = a at h
  cases h <;> cases ha

/-- A commit that is over was done, or someone else has taken the lock. -/
theorem Without.endsWell {outcome : Outcome}
    (h : Without r (fun i => .commit (pod i) (address i)) pod w i (.returned outcome)) :
    EndsWell r pod i outcome ∧ (outcome = .updated (.ok ()) ∨ ∃ k, Taken w k) := by
  generalize ha : Activity.returned outcome = a at h
  cases h with
  | lost other taken =>
    cases ha
    exact ⟨.lost other, Or.inr ⟨_, taken⟩⟩
  | late taken commits =>
    cases ha
    exact ⟨.late, Or.inr ⟨_, taken⟩⟩
  | committed commits =>
    cases ha
    exact ⟨.done, Or.inl rfl⟩
  | _ => cases ha

/-- A commit that is without the lock is taking it, has not started, or is over. -/
theorem Without.leg_eq {a : Activity}
    (h : Without r (fun i => .commit (pod i) (address i)) pod w i a) :
    a.leg = .taking ∨ a.leg = .reading := by
  cases h <;> first | exact Or.inl rfl | exact Or.inr rfl

/-- Whoever has the lock is answered: it can be read, and what it read is what is stored. -/
theorem Holds.answered (hlock : HeldBy r (pod i) w.store)
    (h : Holds r (fun i => .commit (pod i) (address i)) pod w i (w.activity i)) {q : Question}
    (hq : (w.activity i).asked? = some q) : ∃ c, (w.store.answer q).1 = .ok c := by
  obtain ⟨c, version, hstored, hname, hlocked⟩ := hlock
  have hnow := Store.configMap?_eq hstored
  have hsame := ConfigMap.eq_some_name hname
  have hget : ∃ c, (w.store.answer (.get r.name)).1 = .ok c :=
    ⟨_, Store.get_stored hstored hname⟩
  have hreplace {d : ConfigMap} (hd : d.name = c.name)
      (hversion : d.metadata.resourceVersion = some (toString version)) :
      ∃ c, (w.store.answer (.replace d)).1 = .ok c :=
    ⟨_, congrArg Prod.fst (Store.replace_stored hstored (by rw [hd]; exact hsame) hversion)⟩
  generalize w.activity i = a at h hq
  cases h with
  | took =>
    cases hq
    exact hget
  | @recording _ hcall read hread =>
    obtain rfl : c.atVersion version = read := Option.some.inj (hnow.symm.trans hread)
    cases hq
    exact hreplace rfl rfl
  | recorded commits =>
    cases hq
    exact hget
  | @leaving commits read hread =>
    obtain rfl : c.atVersion version = read := Option.some.inj (hnow.symm.trans hread)
    obtain rfl : q = .replace ((c.atVersion version).lockFor "") :=
      Option.some.inj (hq.symm.trans (asked?_leaving hlocked))
    exact hreplace rfl rfl

theorem EndsWell.eq_of_hasTaken {outcome : Outcome} (h : EndsWell r pod i outcome)
    (htaken : (Activity.returned outcome).HasTaken) : outcome = .updated (.ok ()) := by
  cases h with
  | done => rfl
  | lost => exact htaken.elim
  | late => exact htaken.elim

section
variable (h : Contested r (fun i => .commit (pod i) (address i)) pod w)
include h

/-- A commit that is over is without the lock. -/
theorem Contested.without_of_returned {outcome : Outcome}
    (hreturned : w.activity i = .returned outcome) :
    Without r (fun i => .commit (pod i) (address i)) pod w i (.returned outcome) := by
  cases h with
  | free hlock h =>
    rw [← hreturned]
    exact h i
  | held k hlock hk hothers =>
    by_cases hik : i = k
    · subst hik
      rw [hreturned] at hk
      exact absurd hk Holds.not_returned
    · rw [← hreturned]
      exact hothers i hik

/-- A commit that is past taking the lock has it. -/
theorem Contested.holds_of_leg
    (hleg : (w.activity i).leg = .writing ∨ (w.activity i).leg = .freeing) :
    HeldBy r (pod i) w.store ∧
      Holds r (fun i => .commit (pod i) (address i)) pod w i (w.activity i) := by
  have hnot : ¬ Without r (fun i => .commit (pod i) (address i)) pod w i (w.activity i) := by
    intro hwithout
    rcases hwithout.leg_eq with h | h <;> rw [h] at hleg <;> rcases hleg with h | h <;> cases h
  cases h with
  | free hlock h => exact absurd (h i) hnot
  | held k hlock hk hothers =>
    by_cases hik : i = k
    · subst hik
      exact ⟨hlock, hk⟩
    · exact absurd (hothers i hik) hnot

/-- Once all commits are over, the lock is free. -/
theorem Contested.free_of_returned (hall : ∀ i, ∃ outcome, w.activity i = .returned outcome) :
    ∃ c, w.store.configMap? = some c ∧ c.lockedBy = "" := by
  cases h with
  | free hlock h =>
    obtain ⟨c, version, hstored, -, hfree⟩ := hlock
    exact ⟨_, Store.configMap?_eq hstored, hfree⟩
  | held k hlock hk hothers =>
    obtain ⟨outcome, hreturned⟩ := hall k
    rw [hreturned] at hk
    exact absurd hk Holds.not_returned

/-- Once all commits are over, one of them is done. -/
theorem Contested.exists_done [Nonempty ι]
    (hall : ∀ i, ∃ outcome, w.activity i = .returned outcome) :
    ∃ i, w.activity i = .returned (.updated (.ok ())) := by
  obtain ⟨i⟩ := ‹Nonempty ι›
  obtain ⟨outcome, hi⟩ := hall i
  rcases (h.without_of_returned hi).endsWell.2 with rfl | ⟨k, hk⟩
  · exact ⟨i, hi⟩
  · obtain ⟨outcome, hreturned⟩ := hall k
    unfold Taken at hk
    rw [hreturned] at hk
    have hdone := (h.without_of_returned hreturned).endsWell.1.eq_of_hasTaken hk
    exact ⟨k, hdone ▸ hreturned⟩

end

end

/--
**Commits make progress.** Any number of pods commit on a free lock, each once, and however their
calls interleave:

- each commit ends with its address recorded, or was told who else has the lock, or that it came
  too late;
- a commit that has taken the lock is never refused after that, so that it ends with its address
  recorded;
- once all are over, at least one has recorded its address, and the lock is free;
- every commit that gets its turns comes to its end.
-/
theorem commits_make_progress [Nonempty ι] (r : Registry) {pod : ι → String}
    (address : ι → String) (hne : ∀ i, pod i ≠ "") (hinj : Function.Injective pod)
    (hname : first.1.metadata.name = some r.name) (hfree : first.1.lockedBy = "")
    (hw : Reaches r (fun i => .commit (pod i) (address i)) Undisturbed ⟨some first⟩ w) :
    (∀ i outcome, w.activity i = .returned outcome → EndsWell r pod i outcome) ∧
      (∀ i, (w.activity i).leg = .writing ∨ (w.activity i).leg = .freeing →
        (∀ q, (w.activity i).asked? = some q → ∃ c, (w.store.answer q).1 = .ok c) ∧
        ∀ events, Admitted r (fun i => .commit (pod i) (address i)) Undisturbed w events →
          ∀ outcome, (w.run r (fun i => .commit (pod i) (address i)) events).activity i =
            .returned outcome → outcome = .updated (.ok ())) ∧
      ((∀ i, ∃ outcome, w.activity i = .returned outcome) →
        (∃ i, w.activity i = .returned (.updated (.ok ()))) ∧
          ∃ c, w.store.configMap? = some c ∧ c.lockedBy = "") ∧
      ∀ i events, (turns i).Sublist events →
        ∃ outcome, (w.run r (fun i => .commit (pod i) (address i)) events).activity i =
          .returned outcome := by
  have hcall (i : ι) : (Call.commit (pod i) (address i)).TakesFor (pod i) :=
    Or.inr ⟨address i, rfl⟩
  have hc := contested_of_reaches hcall hne hinj hname hfree hw
  refine ⟨fun i outcome hreturned => (hc.without_of_returned hreturned).endsWell.1,
    fun i hleg => ?_, fun hall => ⟨hc.exists_done hall, hc.free_of_returned hall⟩,
    fun i events hturns => returns_of_turns hw hturns⟩
  obtain ⟨hlock, hholds⟩ := hc.holds_of_leg hleg
  refine ⟨fun q hq => hholds.answered hlock hq, fun events hevents outcome hreturned => ?_⟩
  have htaken := hc.taken_run hcall hne hinj hevents (hholds.hasTaken (hcall i))
  have hc' := contested_of_reaches hcall hne hinj hname hfree (hw.run hevents)
  unfold Taken at htaken
  rw [hreturned] at htaken
  exact (hc'.without_of_returned hreturned).endsWell.1.eq_of_hasTaken htaken

/-- Both pods have read the registry before the first one takes the lock; it commits, and the second
one is told so. -/
def commitsRun : World Bool :=
  (World.fresh unlocked).run ⟨"registry"⟩ (fun i => .commit (podName i) "10.0.0.1")
    [.start true, .start false, .answer true, .answer false, .answer true, .answer false,
      .answer false, .answer true, .answer true, .answer true, .answer true]

theorem commits_make_progress_rivals :
    (∀ i outcome, commitsRun.activity i = .returned outcome →
        EndsWell ⟨"registry"⟩ podName i outcome) ∧
      (∃ i, commitsRun.activity i = .returned (.updated (.ok ()))) ∧
      ∃ c, commitsRun.store.configMap? = some c ∧ c.lockedBy = "" := by
  have hreached : Reaches ⟨"registry"⟩ (fun i => .commit (podName i) "10.0.0.1") Undisturbed
      unlocked commitsRun :=
    Reaches.start.run ⟨trivial, trivial, trivial, trivial, trivial, trivial, trivial, trivial,
      trivial, trivial, trivial, trivial⟩
  have hall (i : Bool) : ∃ outcome, commitsRun.activity i = .returned outcome := by
    cases i <;> exact ⟨_, rfl⟩
  obtain ⟨hends, -, hdone, -⟩ := commits_make_progress ⟨"registry"⟩ (fun _ => "10.0.0.1")
    podName_ne podName_injective rfl rfl hreached
  exact ⟨hends, hdone hall⟩

end RingKeeper.Contention
