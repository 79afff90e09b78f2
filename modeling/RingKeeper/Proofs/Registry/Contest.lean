import RingKeeper.Proofs.Registry.Faults
import RingKeeper.Proofs.Registry.Undisturbed

/-!
# A contest for the lock

Any number of calls begin by taking the lock, each for a holder of its own, and nothing else happens
(`Undisturbed`). A call that waits for the lock has read the registry as it is, or has been overtaken
by one that took the lock; and between the calls of whoever has the lock, nobody writes.

1. `HasTaken` says that a call has taken the lock. It never becomes false again.
2. `Without` is how far a call can be that does not have the lock, and `Holds` the same for a call
   that has it.
3. `Contested` says that all calls are without the lock while it is free, and all but its holder
   while it is not. `Contested.next` proves that each event keeps this, and `contested_of_reaches`
   that it holds of all worlds.
-/

namespace RingKeeper.Contention

open Registry
open Rehearsal (Call Outcome)

/-- Whether a call that began by taking the lock has taken it. -/
def Activity.HasTaken : Activity → Prop
  | .writing .. => True
  | .freeing .. => True
  | .returned (.acquired (.ok _)) => True
  | .returned (.updated (.ok _)) => True
  | _ => False

/-- Whether the call writes and frees the lock once it has it. -/
def Commits (call : Call) (holder : String) : Prop := ∃ address, call = .commit holder address

variable {ι : Type} {r : Registry} {call : ι → Call} {holder : ι → String} {w w' : World ι}
  {i j : ι} {a : Activity}

/-! ## Where calls can be -/

/-- Whether the call has taken the lock by now. -/
def Taken (w : World ι) (k : ι) : Prop := (w.activity k).HasTaken

theorem not_taken_of_waiting (hact : w.activity i = .waiting) : ¬ Taken w i := by
  unfold Taken
  rw [hact]
  exact id

theorem not_taken_of_taking {p : Procedure (Attempt Guard)} (hact : w.activity i = .taking p) :
    ¬ Taken w i := by
  unfold Taken
  rw [hact]
  exact id

/-- Where a call can be that is without the lock. -/
inductive Without (r : Registry) (call : ι → Call) (holder : ι → String) (w : World ι) (i : ι) :
    Activity → Prop where
  | waiting : Without r call holder w i .waiting
  | looking : Without r call holder w i (.taking (r.acquire (holder i)))
  /-- It was free when the call read it; if the registry is another now, someone has taken it. -/
  | reaching {read : ConfigMap} (named : read.metadata.name = some r.name)
    (free : read.lockedBy = "") (snapshot : Snapshot w.store read)
    (raced : w.store.configMap? = some read ∨ ∃ k, Taken w k) :
    Without r call holder w i (.taking (r.reaching (holder i) read))
  | refused {read : ConfigMap} (free : read.lockedBy = "") (raced : ∃ k, Taken w k) :
    Without r call holder w i (.taking (r.refused (holder i) read))
  | lost {k : ι} (other : k ≠ i) (taken : Taken w k) :
    Without r call holder w i
      (Activity.afterTaking r (call i) (.error (.ofKind (.lockHeld r.name (holder k)))))
  /-- Someone had taken the lock before, and it was free again. -/
  | late {k : ι} (taken : Taken w k) (commits : Commits (call k) (holder k)) :
    Without r call holder w i
      (Activity.afterTaking r (call i) (.error (.ofKind (.conflict r.name))))
  | committed (commits : Commits (call i) (holder i)) :
    Without r call holder w i (.returned (.updated (.ok ())))

/-- Where a call can be that has the lock. What it has read is still stored. -/
inductive Holds (r : Registry) (call : ι → Call) (holder : ι → String) (w : World ι) (i : ι) :
    Activity → Prop where
  | took : Holds r call holder w i (Activity.afterTaking r (call i) (.ok ⟨r, holder i⟩))
  | recording {address : String} (hcall : call i = .commit (holder i) address) {read : ConfigMap}
    (hread : w.store.configMap? = some read) :
    Holds r call holder w i
      (.writing ⟨r, holder i⟩ (r.recording (holder i) address read))
  | recorded (commits : Commits (call i) (holder i)) :
    Holds r call holder w i (.freeing (some (.ok ())) (r.release (holder i)))
  | leaving (commits : Commits (call i) (holder i)) {read : ConfigMap}
    (hread : w.store.configMap? = some read) :
    Holds r call holder w i (.freeing (some (.ok ())) (r.leaving (holder i) read))

theorem Holds.hasTaken (hcall : (call i).TakesFor (holder i)) (h : Holds r call holder w i a) :
    a.HasTaken := by
  cases h with
  | took => rcases hcall with hi | ⟨address, hi⟩ <;> rw [hi] <;> trivial
  | recording => trivial
  | recorded => trivial
  | leaving => trivial

theorem Holds.of_store_eq (h : Holds r call holder w i a) (hstore : w'.store = w.store) :
    Holds r call holder w' i a := by
  cases h with
  | took => exact .took
  | recording hi hread => exact .recording hi (by rw [hstore]; exact hread)
  | recorded commits => exact .recorded commits
  | leaving commits hread => exact .leaving commits (by rw [hstore]; exact hread)

/-- A call that has taken the lock and is without it has committed. -/
theorem Without.commits_of_hasTaken (hcall : (call i).TakesFor (holder i))
    (h : Without r call holder w i a) (htaken : a.HasTaken) : Commits (call i) (holder i) := by
  cases h with
  | committed commits => exact commits
  | lost => rcases hcall with hi | ⟨address, hi⟩ <;> rw [hi] at htaken <;> exact htaken.elim
  | late => rcases hcall with hi | ⟨address, hi⟩ <;> rw [hi] at htaken <;> exact htaken.elim
  | _ => exact htaken.elim

/-- What a call may know of a world is not lost: who has taken the lock, and what was stored. -/
structure Extends (w w' : World ι) : Prop where
  taken : ∀ k, Taken w k → Taken w' k
  snapshot : ∀ read, Snapshot w.store read → Snapshot w'.store read
  overtaken : w'.store = w.store ∨ ∃ k, Taken w' k

theorem Without.mono (h : Without r call holder w i a) (hw : Extends w w') :
    Without r call holder w' i a := by
  have hraced : (∃ k, Taken w k) → ∃ k, Taken w' k := fun ⟨k, hk⟩ => ⟨k, hw.taken k hk⟩
  cases h with
  | waiting => exact .waiting
  | looking => exact .looking
  | reaching named free snapshot raced =>
    refine .reaching named free (hw.snapshot _ snapshot) ?_
    rcases hw.overtaken with hstore | hk
    · rw [hstore]
      exact raced.imp_right hraced
    · exact Or.inr hk
  | refused free raced => exact .refused free (hraced raced)
  | lost other taken => exact .lost other (hw.taken _ taken)
  | late taken commits => exact .late (hw.taken _ taken) commits
  | committed commits => exact .committed commits

/-! ## The invariant -/

/-- While the lock is free all calls are without it, and while it is not, all but one. -/
inductive Contested (r : Registry) (call : ι → Call) (holder : ι → String) (w : World ι) : Prop where
  | free (hlock : HeldBy r "" w.store) (h : ∀ i, Without r call holder w i (w.activity i))
  | held (i : ι) (hlock : HeldBy r (holder i) w.store) (hi : Holds r call holder w i (w.activity i))
    (h : ∀ j, j ≠ i → Without r call holder w j (w.activity j))

/-- The contest goes on, and nothing that a call knew is lost. -/
structure Continues (r : Registry) (call : ι → Call) (holder : ι → String) (w w' : World ι) :
    Prop where
  contested : Contested r call holder w'
  kept : Extends w w'

theorem Contested.continues_refl (h : Contested r call holder w) : Continues r call holder w w :=
  ⟨h, fun _ => id, fun _ => id, Or.inl rfl⟩

variable [DecidableEq ι] {s : Store} {c d : ConfigMap} {version : Nat}

/-! ## One call goes on -/

theorem GoesOn.refl (w : World ι) (i : ι) : GoesOn w w i (w.activity i) w.store :=
  ⟨(Function.update_eq_self i w.activity).symm, rfl⟩

theorem GoesOn.activity_self (h : GoesOn w w' i a s) : w'.activity i = a := by
  rw [h.activity, Function.update_self]

theorem GoesOn.activity_of_ne (h : GoesOn w w' i a s) (hj : j ≠ i) :
    w'.activity j = w.activity j := by
  rw [h.activity, Function.update_of_ne hj]

theorem GoesOn.taken (h : GoesOn w w' i a s) (ha : Taken w i → a.HasTaken) (k : ι)
    (hk : Taken w k) : Taken w' k := by
  unfold Taken
  by_cases hki : k = i
  · subst hki
    rw [h.activity_self]
    exact ha hk
  · rw [h.activity_of_ne hki]
    exact hk

theorem GoesOn.extends_of_eq (h : GoesOn w w' i a w.store) (ha : Taken w i → a.HasTaken) :
    Extends w w' := by
  refine ⟨h.taken ha, fun read hread => ?_, Or.inl h.store⟩
  rw [h.store]
  exact hread

theorem GoesOn.extends_of_write (h : GoesOn w w' i a ⟨some (d, version + 1)⟩)
    (hstored : w.store.stored = some (c, version)) (ha : a.HasTaken) : Extends w w' := by
  refine ⟨h.taken fun _ => ha, fun read hread => ?_, Or.inr ⟨i, ?_⟩⟩
  · rw [h.store]
    exact hread.write hstored
  · unfold Taken
    rw [h.activity_self]
    exact ha

theorem GoesOn.without (h : GoesOn w w' i a s) (hw : Extends w w')
    (hi : Without r call holder w i a) (hj : Without r call holder w j (w.activity j)) :
    Without r call holder w' j (w'.activity j) := by
  by_cases hji : j = i
  · subst hji
    rw [h.activity_self]
    exact hi.mono hw
  · rw [h.activity_of_ne hji]
    exact hj.mono hw

/-! ## A call without the lock -/

/-- What a call without the lock finds: the lock is free, after commits at most, or another's. -/
inductive Finds (call : ι → Call) (holder : ι → String) (w : World ι) (i : ι) (now : ConfigMap) :
    Prop where
  | free (h : now.lockedBy = "") (commits : ∀ k, Taken w k → Commits (call k) (holder k))
  | held {k : ι} (other : k ≠ i) (taken : Taken w k) (h : now.lockedBy = holder k)
    (hne : now.lockedBy ≠ "") (hother : now.lockedBy ≠ holder i)

/-- A call without the lock goes on, and stays without it. -/
def StaysWithout (r : Registry) (call : ι → Call) (holder : ι → String) (w w' : World ι) (i : ι) :
    Prop :=
  ∃ a, GoesOn w w' i a w.store ∧ Without r call holder w i a ∧ (Taken w i → a.HasTaken)

/-- A call without the lock goes on, and takes it. -/
def TakesLock (r : Registry) (call : ι → Call) (holder : ι → String) (w w' : World ι) (i : ι)
    (c : ConfigMap) (version : Nat) : Prop :=
  GoesOn w w' i (Activity.afterTaking r (call i) (.ok ⟨r, holder i⟩))
    ⟨some ((c.atVersion version).lockFor (holder i), version + 1)⟩

theorem asked?_afterTaking_error (r : Registry) (call : Call) (f : Fault) :
    (Activity.afterTaking r call (.error f)).asked? = none := by
  cases call <;> rfl

theorem staysWithout_of_taking {p : Procedure (Attempt Guard)} (hact : w.activity i = .taking p)
    (hgoes : GoesOn w w' i a w.store) (ha : Without r call holder w i a) :
    StaysWithout r call holder w w' i :=
  ⟨a, hgoes, ha, fun htaken => absurd htaken (not_taken_of_taking hact)⟩

/-- A call that reads the registry for the first time finds the lock free, or hears who has it. -/
theorem staysWithout_looking (hact : w.activity i = .taking (r.acquire (holder i)))
    (hstored : w.store.stored = some (c, version)) (hname : c.metadata.name = some r.name)
    (hfinds : Finds call holder w i (c.atVersion version)) :
    StaysWithout r call holder w (w.next r call (.answer i)) i := by
  have hgoes := goesOn_get r call (by rw [hact]; rfl) hstored hname
  rw [hact] at hgoes
  cases hfinds with
  | free h commits =>
    rw [hear_acquire_free h] at hgoes
    refine staysWithout_of_taking hact hgoes ?_
    exact .reaching hname h (snapshot_of_stored hstored) (Or.inl (Store.configMap?_eq hstored))
  | held other taken h hne hother =>
    rw [hear_acquire_held hne hother, h] at hgoes
    exact staysWithout_of_taking hact hgoes (.lost other taken)

/-- A call that was refused finds the lock free again, or hears who has it. -/
theorem staysWithout_refused {read : ConfigMap}
    (hact : w.activity i = .taking (r.refused (holder i) read)) (free : read.lockedBy = "")
    (raced : ∃ k, Taken w k) (hstored : w.store.stored = some (c, version))
    (hname : c.metadata.name = some r.name) (hfinds : Finds call holder w i (c.atVersion version)) :
    StaysWithout r call holder w (w.next r call (.answer i)) i := by
  have hgoes := goesOn_get r call (by rw [hact]; exact asked?_refused free) hstored hname
  rw [hact] at hgoes
  cases hfinds with
  | free h commits =>
    obtain ⟨k, hk⟩ := raced
    rw [hear_refused_free free h] at hgoes
    exact staysWithout_of_taking hact hgoes (.late hk (commits k hk))
  | held other taken h hne hother =>
    rw [hear_refused_held free hne hother, h] at hgoes
    exact staysWithout_of_taking hact hgoes (.lost other taken)

/-- A call that is about to take the lock takes it, or is refused since the registry is another. -/
theorem staysWithout_or_takesLock {read : ConfigMap}
    (hact : w.activity i = .taking (r.reaching (holder i) read))
    (named : read.metadata.name = some r.name) (free : read.lockedBy = "")
    (snapshot : Snapshot w.store read)
    (raced : w.store.configMap? = some read ∨ ∃ k, Taken w k)
    (hstored : w.store.stored = some (c, version)) (hname : c.metadata.name = some r.name) :
    StaysWithout r call holder w (w.next r call (.answer i)) i ∨
      c.lockedBy = "" ∧ TakesLock r call holder w (w.next r call (.answer i)) i c version := by
  have hq : (w.activity i).asked? = some (.replace (read.lockFor (holder i))) := by
    rw [hact]
    exact asked?_reaching free
  have hcname : (read.lockFor (holder i)).name = r.name := ConfigMap.name_of_eq_some named
  by_cases hread : read = c.atVersion version
  · subst hread
    right
    have hgoes := goesOn_replace r call hq hstored (hname.trans (congrArg some hcname.symm)) rfl
    rw [hact, hear_reaching_ok free] at hgoes
    exact ⟨free, hgoes⟩
  · -- what was read is not what is stored, so its version is not the stored one
    left
    have hversion : (read.lockFor (holder i)).metadata.resourceVersion ≠
        some (toString version) := by
      intro heq
      obtain ⟨n, hn, hold⟩ := snapshot
      have hsame : n = version := toString_injective (Option.some.inj (hn.symm.trans heq))
      exact hread ((hold c version hstored).2 hsame)
    have hovertaken : ∃ k, Taken w k := by
      rcases raced with hnow | hovertaken
      · rw [Store.configMap?_eq hstored] at hnow
        exact absurd (Option.some.inj hnow).symm hread
      · exact hovertaken
    have hgoes := goesOn_conflict r call hq hstored (hname.trans (congrArg some hcname.symm))
      hversion
    rw [hact, hcname, hear_reaching_conflict free] at hgoes
    exact staysWithout_of_taking hact hgoes (.refused free hovertaken)

/-- **A call without the lock** stays without it, unless the lock is free and it takes it. -/
theorem Without.answer (hstored : w.store.stored = some (c, version))
    (hname : c.metadata.name = some r.name) (hfinds : Finds call holder w i (c.atVersion version))
    (h : Without r call holder w i (w.activity i)) :
    StaysWithout r call holder w (w.next r call (.answer i)) i ∨
      c.lockedBy = "" ∧ TakesLock r call holder w (w.next r call (.answer i)) i c version := by
  have hsame (hq : (w.activity i).asked? = none) :
      StaysWithout r call holder w (w.next r call (.answer i)) i := by
    rw [World.next_answer_of_none hq]
    exact ⟨_, .refl w i, h, id⟩
  generalize hact : w.activity i = b at h
  cases h with
  | waiting => exact Or.inl (hsame (by rw [hact]; rfl))
  | looking => exact Or.inl (staysWithout_looking hact hstored hname hfinds)
  | reaching named free snapshot raced =>
    exact staysWithout_or_takesLock hact named free snapshot raced hstored hname
  | refused free raced => exact Or.inl (staysWithout_refused hact free raced hstored hname hfinds)
  | lost => exact Or.inl (hsame (by rw [hact]; exact asked?_afterTaking_error _ _ _))
  | late => exact Or.inl (hsame (by rw [hact]; exact asked?_afterTaking_error _ _ _))
  | committed => exact Or.inl (hsame (by rw [hact]; rfl))

/-! ## The call that has the lock -/

/-- Whoever has the lock goes on without writing. -/
theorem held_of_read (hgoes : GoesOn w w' i a w.store) (hlock : HeldBy r (holder i) w.store)
    (ha : a.HasTaken) (hi : Holds r call holder w' i a)
    (hothers : ∀ j, j ≠ i → Without r call holder w j (w.activity j)) :
    Continues r call holder w w' := by
  have hw := hgoes.extends_of_eq fun _ => ha
  refine ⟨.held i ?_ ?_ fun j hj => ?_, hw⟩
  · rw [hgoes.store]
    exact hlock
  · rw [hgoes.activity_self]
    exact hi
  · rw [hgoes.activity_of_ne hj]
    exact (hothers j hj).mono hw

/-- Whoever has the lock now has written. -/
theorem held_of_write (hgoes : GoesOn w w' i a ⟨some (d, version + 1)⟩)
    (hstored : w.store.stored = some (c, version)) (hname : d.metadata.name = some r.name)
    (hlock : d.lockedBy = holder i) (ha : a.HasTaken) (hi : Holds r call holder w' i a)
    (hothers : ∀ j, j ≠ i → Without r call holder w j (w.activity j)) :
    Continues r call holder w w' := by
  have hw := hgoes.extends_of_write hstored ha
  refine ⟨.held i ⟨d, version + 1, ?_, hname, hlock⟩ ?_ fun j hj => ?_, hw⟩
  · rw [hgoes.store]
  · rw [hgoes.activity_self]
    exact hi
  · rw [hgoes.activity_of_ne hj]
    exact (hothers j hj).mono hw

/-- Whoever had the lock has freed it. -/
theorem free_of_write (hgoes : GoesOn w w' i a ⟨some (d, version + 1)⟩)
    (hstored : w.store.stored = some (c, version)) (hname : d.metadata.name = some r.name)
    (hlock : d.lockedBy = "") (ha : a.HasTaken) (hi : Without r call holder w i a)
    (hothers : ∀ j, j ≠ i → Without r call holder w j (w.activity j)) :
    Continues r call holder w w' := by
  have hw := hgoes.extends_of_write hstored ha
  refine ⟨.free ⟨d, version + 1, ?_, hname, hlock⟩ fun j => ?_, hw⟩
  · rw [hgoes.store]
  · by_cases hj : j = i
    · subst hj
      rw [hgoes.activity_self]
      exact hi.mono hw
    · rw [hgoes.activity_of_ne hj]
      exact (hothers j hj).mono hw

/-- **The call that has the lock** is never refused, and keeps the lock until it frees it. -/
theorem Holds.answer (hcall : (call i).TakesFor (holder i))
    (hstored : w.store.stored = some (c, version)) (hname : c.metadata.name = some r.name)
    (hlock : c.lockedBy = holder i) (h : Holds r call holder w i (w.activity i))
    (hothers : ∀ j, j ≠ i → Without r call holder w j (w.activity j)) :
    Continues r call holder w (w.next r call (.answer i)) := by
  have hnow := Store.configMap?_eq hstored
  have hlocked : HeldBy r (holder i) w.store := ⟨c, version, hstored, hname, hlock⟩
  have hsame := ConfigMap.eq_some_name hname
  have hown : (c.atVersion version).lockedBy = holder i := hlock
  have hcontested : Contested r call holder w := .held i hlocked h hothers
  generalize hact : w.activity i = b at h
  -- what it has read is what is stored, so a replacement of that is made
  cases h with
  | took =>
    rcases hcall with hi | ⟨address, hi⟩
    · rw [World.next_answer_of_none (by rw [hact, hi]; rfl)]
      exact hcontested.continues_refl
    · have hgoes := goesOn_get r call (by rw [hact, hi]; rfl) hstored hname
      have hhear : (w.activity i).hear r (call i) (.ok (c.atVersion version)) =
          .writing ⟨r, holder i⟩ (r.recording (holder i) address (c.atVersion version)) := by
        rw [hact, hi]
        exact hear_putAddress _ _ _
      rw [hhear] at hgoes
      exact held_of_read hgoes hlocked trivial (.recording hi (by rw [hgoes.store]; exact hnow))
        hothers
  | @recording address hi read hread =>
    obtain rfl : c.atVersion version = read := Option.some.inj (hnow.symm.trans hread)
    have hq : (w.activity i).asked? =
        some (.replace ((c.atVersion version).recordAddress (holder i) address)) := by
      rw [hact]
      rfl
    have hgoes := goesOn_replace r call hq hstored hsame rfl
    rw [hact, hear_recording_ok] at hgoes
    exact held_of_write hgoes hstored hname
      ((ConfigMap.lockedBy_recordAddress _ _ _).trans hlock) trivial (.recorded ⟨address, hi⟩)
      hothers
  | recorded commits =>
    have hgoes := goesOn_get r call (by rw [hact]; rfl) hstored hname
    rw [hact, hear_release_own _ hown] at hgoes
    exact held_of_read hgoes hlocked trivial (.leaving commits (by rw [hgoes.store]; exact hnow))
      hothers
  | @leaving commits read hread =>
    obtain rfl : c.atVersion version = read := Option.some.inj (hnow.symm.trans hread)
    have hq : (w.activity i).asked? = some (.replace ((c.atVersion version).lockFor "")) := by
      rw [hact]
      exact asked?_leaving hown
    have hgoes := goesOn_replace r call hq hstored hsame rfl
    rw [hact, hear_leaving_ok _ hown] at hgoes
    exact free_of_write hgoes hstored hname (ConfigMap.lockedBy_lockFor _ _) trivial
      (.committed commits) hothers

/-! ## What an event makes of a contest -/

/-- A call that stays without the lock leaves it free. -/
theorem free_of_staysWithout (hi : StaysWithout r call holder w w' i) (hlock : HeldBy r "" w.store)
    (h : ∀ j, Without r call holder w j (w.activity j)) : Continues r call holder w w' := by
  obtain ⟨a, hgoes, ha, htaken⟩ := hi
  have hw := hgoes.extends_of_eq htaken
  refine ⟨.free ?_ fun j => hgoes.without hw ha (h j), hw⟩
  rw [hgoes.store]
  exact hlock

/-- A call that stays without the lock leaves it to whoever has it. -/
theorem held_of_staysWithout {k : ι} (hi : StaysWithout r call holder w w' i) (hik : i ≠ k)
    (hlock : HeldBy r (holder k) w.store) (hk : Holds r call holder w k (w.activity k))
    (hothers : ∀ j, j ≠ k → Without r call holder w j (w.activity j)) :
    Continues r call holder w w' := by
  obtain ⟨a, hgoes, ha, htaken⟩ := hi
  have hw := hgoes.extends_of_eq htaken
  refine ⟨.held k ?_ ?_ fun j hj => hgoes.without hw ha (hothers j hj), hw⟩
  · rw [hgoes.store]
    exact hlock
  · rw [hgoes.activity_of_ne hik.symm]
    exact hk.of_store_eq hgoes.store

theorem first_of_takesFor (r : Registry) {call : Call} {name : String} (h : call.TakesFor name) :
    (Activity.first r call).settle r call = .taking (r.acquire name) := by
  rcases h with rfl | ⟨address, rfl⟩ <;> rfl

section
variable (hcall : ∀ i, (call i).TakesFor (holder i))
include hcall

theorem Contested.start (h : Contested r call holder w) (i : ι) :
    Continues r call holder w (w.next r call (.start i)) := by
  by_cases hi : w.activity i = .waiting
  · have hgoes := goesOn_start r call hi
    have hnot := not_taken_of_waiting hi
    rw [first_of_takesFor r (hcall i)] at hgoes
    have hstays : StaysWithout r call holder w (w.next r call (.start i)) i :=
      ⟨_, hgoes, .looking, fun htaken => (hnot htaken).elim⟩
    cases h with
    | free hlock h => exact free_of_staysWithout hstays hlock h
    | held k hlock hk hothers =>
      refine held_of_staysWithout hstays ?_ hlock hk hothers
      rintro rfl
      exact hnot (hk.hasTaken (hcall i))
  · rw [World.next_start_of_ne hi]
    exact h.continues_refl

variable (hne : ∀ i, holder i ≠ "") (hinj : Function.Injective holder)
include hne hinj

theorem Contested.answer (h : Contested r call holder w) (i : ι) :
    Continues r call holder w (w.next r call (.answer i)) := by
  cases h with
  | free hlock h =>
    obtain ⟨c, version, hstored, hname, hfree⟩ := hlock
    have hcommits (k : ι) (hk : Taken w k) : Commits (call k) (holder k) :=
      (h k).commits_of_hasTaken (hcall k) hk
    rcases (h i).answer hstored hname (.free hfree hcommits) with hstays | ⟨-, htakes⟩
    · exact free_of_staysWithout hstays ⟨c, version, hstored, hname, hfree⟩ h
    · have htook : Holds r call holder (w.next r call (.answer i)) i
          (Activity.afterTaking r (call i) (.ok ⟨r, holder i⟩)) := .took
      exact held_of_write htakes hstored hname (ConfigMap.lockedBy_lockFor _ _)
        (htook.hasTaken (hcall i)) htook fun j _ => h j
  | held k hlock hk hothers =>
    obtain ⟨c, version, hstored, hname, hlocked⟩ := hlock
    by_cases hik : i = k
    · subst hik
      exact hk.answer (hcall i) hstored hname hlocked hothers
    · have hheld : c.lockedBy ≠ "" := hlocked ▸ hne k
      have hother : c.lockedBy ≠ holder i := by
        rw [hlocked]
        exact fun heq => hik (hinj heq).symm
      -- the lock is not free, so this call cannot take it
      have hfinds : Finds call holder w i (c.atVersion version) :=
        .held (Ne.symm hik) (hk.hasTaken (hcall k)) hlocked hheld hother
      rcases (hothers i hik).answer hstored hname hfinds with hstays | ⟨hfree, -⟩
      · exact held_of_staysWithout hstays hik ⟨c, version, hstored, hname, hlocked⟩ hk hothers
      · exact absurd hfree hheld

theorem Contested.next (h : Contested r call holder w) {e : Event ι} (he : Undisturbed w e) :
    Continues r call holder w (w.next r call e) := by
  cases e with
  | start i => exact h.start hcall i
  | answer i => exact h.answer hcall hne hinj i
  | _ => exact he.elim

/-- Whoever has taken the lock has taken it for good. -/
theorem Contested.taken_run (h : Contested r call holder w) {events : List (Event ι)}
    (hevents : Admitted r call Undisturbed w events) {k : ι} (hk : Taken w k) :
    Taken (w.run r call events) k := by
  induction events generalizing w with
  | nil => exact hk
  | cons e events ih =>
    have hnext := h.next hcall hne hinj hevents.1
    exact ih hnext.contested hevents.2 (hnext.kept.taken k hk)

/-- **All worlds are contested.** -/
theorem contested_of_reaches {first : ConfigMap × Nat} (hname : first.1.metadata.name = some r.name)
    (hfree : first.1.lockedBy = "") (hw : Reaches r call Undisturbed ⟨some first⟩ w) :
    Contested r call holder w := by
  induction hw with
  | start => exact .free ⟨first.1, first.2, rfl, hname, hfree⟩ fun i => .waiting
  | step e hw he ih => exact (ih.next hcall hne hinj he).contested

end

end RingKeeper.Contention
