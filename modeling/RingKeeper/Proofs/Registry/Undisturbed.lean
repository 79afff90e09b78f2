import RingKeeper.Proofs.Registry.Steps

/-!
# A store without disturbances

Only the calls act here, and the store answers each of their questions: no call to the store fails,
and nobody else writes. Then an answer is determined by what is stored and what was read.

1. `Undisturbed` admits these events.
2. `reaching`, `refused`, `recording` and `leaving` are what is left of taking the lock, recording an
   address and freeing the lock once the registry was read. The lemmas `hear_*` say what each answer
   makes of them.
3. `goesOn_get`, `goesOn_replace` and `goesOn_conflict` say what an answer makes of the world.
-/

namespace RingKeeper

open Registry
open Rehearsal (Call Outcome)

theorem ConfigMap.isLockedAgainst_of_free {c : ConfigMap} (h : c.lockedBy = "") (holder : String) :
    c.isLockedAgainst holder = false := by
  simp [isLockedAgainst, h]

theorem ConfigMap.isLockedAgainst_of_ne {c : ConfigMap} {holder : String} (hheld : c.lockedBy ≠ "")
    (hother : c.lockedBy ≠ holder) : c.isLockedAgainst holder = true := by
  simp [isLockedAgainst, hheld, hother]

theorem ConfigMap.name_of_eq_some {c : ConfigMap} {name : String}
    (h : c.metadata.name = some name) : c.name = name := by
  simp [ConfigMap.name, Metadata.nameOrEmpty, h]

theorem ConfigMap.eq_some_name {c : ConfigMap} {name : String}
    (h : c.metadata.name = some name) : c.metadata.name = some c.name := by
  rw [name_of_eq_some h, h]

namespace Registry

/-- A replacement that carries another version than the stored one is refused. -/
theorem Store.replace_stale {s : Store} {c d : ConfigMap} {version : Nat}
    (h : s.stored = some (d, version)) (hname : d.metadata.name = some c.name)
    (hversion : c.metadata.resourceVersion ≠ some (toString version)) :
    s.replace c = (.error (.ofKind (.conflict c.name)), s) := by
  unfold replace
  rw [h]
  dsimp only
  rw [if_neg (not_not_intro hname), if_pos hversion]

/-! ## Procedures in the middle -/

/-- What is left of taking the lock after this was read. -/
def reaching (r : Registry) (holder : String) (read : ConfigMap) : Procedure (Attempt Guard) :=
  resume (.ok read) (r.acquire holder)

/-- What is left of taking the lock after the replacement was refused. -/
def refused (r : Registry) (holder : String) (read : ConfigMap) : Procedure (Attempt Guard) :=
  resume (.error (.ofKind (.conflict r.name))) (r.reaching holder read)

/-- What is left of recording an address after this was read. -/
def recording (r : Registry) (pod address : String) (read : ConfigMap) : Procedure (Attempt Unit) :=
  resume (.ok read) (r.putAddress pod address)

/-- What is left of freeing the lock after this was read. -/
def leaving (r : Registry) (holder : String) (read : ConfigMap) : Procedure Bool :=
  resume (.ok read) (r.release holder)

section
variable {r : Registry} {holder : String} {read : ConfigMap}

theorem asked?_reaching (h : read.lockedBy = "") :
    asked? (r.reaching holder read) = some (.replace (read.lockFor holder)) := by
  show asked? (if read.isLockedAgainst holder then _ else _) = _
  rw [ConfigMap.isLockedAgainst_of_free h]
  rfl

theorem resume_reaching_ok (h : read.lockedBy = "") (left : ConfigMap) :
    resume (.ok left) (r.reaching holder read) = .done (.ok ⟨r, holder⟩) := by
  show resume (.ok left) (if read.isLockedAgainst holder then _ else _) = _
  rw [ConfigMap.isLockedAgainst_of_free h]
  rfl

theorem asked?_refused (h : read.lockedBy = "") :
    asked? (r.refused holder read) = some (.get r.name) := by
  show asked? (resume _ (if read.isLockedAgainst holder then _ else _)) = _
  rw [ConfigMap.isLockedAgainst_of_free h]
  rfl

/-- Whoever was refused reads again, to tell who has the lock. -/
theorem resume_refused (h : read.lockedBy = "") (now : ConfigMap) :
    resume (.ok now) (r.refused holder read) =
      if now.isLockedAgainst holder then .done (.error (.ofKind (.lockHeld r.name now.lockedBy)))
      else .done (.error (.ofKind (.conflict r.name))) := by
  show resume (.ok now) (resume _ (if read.isLockedAgainst holder then _ else _)) = _
  rw [ConfigMap.isLockedAgainst_of_free h]
  rfl

theorem asked?_leaving (h : read.lockedBy = holder) :
    asked? (r.leaving holder read) = some (.replace (read.lockFor "")) := by
  show asked? (if read.lockedBy = holder then _ else _) = _
  rw [if_pos h]
  rfl

theorem resume_leaving_ok (h : read.lockedBy = holder) (left : ConfigMap) :
    resume (.ok left) (r.leaving holder read) = .done true := by
  show resume (.ok left) (if read.lockedBy = holder then _ else _) = _
  rw [if_pos h]
  rfl

end

end Registry

namespace Contention

/-! ## What an answer makes of a call -/

section
variable {r : Registry} {call : Call} {holder : String} {read : ConfigMap}

theorem settle_of_asked? {a : Activity} {q : Question} (h : a.asked? = some q) :
    a.settle r call = a := by
  cases a with
  | waiting => rfl
  | returned outcome => rfl
  | reading rest => cases rest <;> first | rfl | cases h
  | taking rest => cases rest <;> first | rfl | cases h
  | writing guard rest => cases rest <;> first | rfl | cases h
  | freeing written rest => cases rest <;> first | rfl | cases h

theorem hear_acquire_free (h : read.lockedBy = "") :
    (Activity.taking (r.acquire holder)).hear r call (.ok read) =
      .taking (r.reaching holder read) :=
  settle_of_asked? (q := .replace (read.lockFor holder)) (asked?_reaching h)

theorem hear_acquire_held (hheld : read.lockedBy ≠ "") (hother : read.lockedBy ≠ holder) :
    (Activity.taking (r.acquire holder)).hear r call (.ok read) =
      Activity.afterTaking r call (.error (.ofKind (.lockHeld r.name read.lockedBy))) := by
  show Activity.settle r call (.taking (if read.isLockedAgainst holder then _ else _)) = _
  rw [ConfigMap.isLockedAgainst_of_ne hheld hother]
  rfl

theorem hear_reaching_ok (h : read.lockedBy = "") (left : ConfigMap) :
    (Activity.taking (r.reaching holder read)).hear r call (.ok left) =
      Activity.afterTaking r call (.ok ⟨r, holder⟩) := by
  show Activity.settle r call (.taking (resume (.ok left) (r.reaching holder read))) = _
  rw [resume_reaching_ok h]
  rfl

theorem hear_reaching_conflict (h : read.lockedBy = "") :
    (Activity.taking (r.reaching holder read)).hear r call (.error (.ofKind (.conflict r.name))) =
      .taking (r.refused holder read) :=
  settle_of_asked? (q := .get r.name) (asked?_refused h)

theorem hear_refused_free (h : read.lockedBy = "") {now : ConfigMap} (hnow : now.lockedBy = "") :
    (Activity.taking (r.refused holder read)).hear r call (.ok now) =
      Activity.afterTaking r call (.error (.ofKind (.conflict r.name))) := by
  show Activity.settle r call (.taking (resume (.ok now) (r.refused holder read))) = _
  rw [resume_refused h, ConfigMap.isLockedAgainst_of_free hnow]
  rfl

theorem hear_refused_held (h : read.lockedBy = "") {now : ConfigMap} (hheld : now.lockedBy ≠ "")
    (hother : now.lockedBy ≠ holder) :
    (Activity.taking (r.refused holder read)).hear r call (.ok now) =
      Activity.afterTaking r call (.error (.ofKind (.lockHeld r.name now.lockedBy))) := by
  show Activity.settle r call (.taking (resume (.ok now) (r.refused holder read))) = _
  rw [resume_refused h, ConfigMap.isLockedAgainst_of_ne hheld hother]
  rfl

theorem hear_putAddress (guard : Guard) (pod address : String) :
    (Activity.writing guard (r.putAddress pod address)).hear r call (.ok read) =
      .writing guard (r.recording pod address read) := rfl

theorem hear_recording_ok (guard : Guard) (pod address : String) (left : ConfigMap) :
    (Activity.writing guard (r.recording pod address read)).hear r call (.ok left) =
      .freeing (some (.ok ())) guard.release := rfl

theorem hear_release_own (written : Option (Attempt Unit)) (h : read.lockedBy = holder) :
    (Activity.freeing written (r.release holder)).hear r call (.ok read) =
      .freeing written (r.leaving holder read) :=
  settle_of_asked? (q := .replace (read.lockFor "")) (asked?_leaving h)

theorem hear_leaving_ok (written : Option (Attempt Unit)) (h : read.lockedBy = holder)
    (left : ConfigMap) :
    (Activity.freeing written (r.leaving holder read)).hear r call (.ok left) =
      .returned (Activity.afterFreeing written true) := by
  show Activity.settle r call (.freeing written (resume (.ok left) (r.leaving holder read))) = _
  rw [resume_leaving_ok h]
  rfl

end

/-! ## What an answer makes of the world -/

variable {ι : Type} [DecidableEq ι] {w : World ι} {i : ι} {c d : ConfigMap} {version : Nat}

/-- Admits that calls start and that the store answers them, and nothing else. -/
def Undisturbed (_ : World ι) : Event ι → Prop
  | .start _ => True
  | .answer _ => True
  | _ => False

/-- One call has gone on to this activity, and this is stored since. -/
structure GoesOn (w w' : World ι) (i : ι) (a : Activity) (s : Store) : Prop where
  activity : w'.activity = Function.update w.activity i a
  store : w'.store = s

theorem goesOn_start (r : Registry) (call : ι → Call) (hi : w.activity i = .waiting) :
    GoesOn w (w.next r call (.start i)) i ((Activity.first r (call i)).settle r (call i))
      w.store := by
  rw [World.next_start hi]
  exact ⟨rfl, rfl⟩

theorem goesOn_get (r : Registry) (call : ι → Call) {name : String}
    (hq : (w.activity i).asked? = some (.get name))
    (hstored : w.store.stored = some (c, version)) (hname : c.metadata.name = some name) :
    GoesOn w (w.next r call (.answer i)) i
      ((w.activity i).hear r (call i) (.ok (c.atVersion version))) w.store := by
  rw [World.next_answer hq, answer_get, Store.get_stored hstored hname]
  exact ⟨rfl, rfl⟩

theorem goesOn_replace (r : Registry) (call : ι → Call)
    (hq : (w.activity i).asked? = some (.replace d))
    (hstored : w.store.stored = some (c, version)) (hname : c.metadata.name = some d.name)
    (hversion : d.metadata.resourceVersion = some (toString version)) :
    GoesOn w (w.next r call (.answer i)) i
      ((w.activity i).hear r (call i) (.ok (d.atVersion (version + 1))))
      ⟨some (d, version + 1)⟩ := by
  rw [World.next_answer hq, answer_replace_ok i (Store.replace_stored hstored hname hversion)]
  exact ⟨rfl, rfl⟩

theorem goesOn_conflict (r : Registry) (call : ι → Call)
    (hq : (w.activity i).asked? = some (.replace d))
    (hstored : w.store.stored = some (c, version)) (hname : c.metadata.name = some d.name)
    (hversion : d.metadata.resourceVersion ≠ some (toString version)) :
    GoesOn w (w.next r call (.answer i)) i
      ((w.activity i).hear r (call i) (.error (.ofKind (.conflict d.name)))) w.store := by
  rw [World.next_answer hq, answer_replace_error i (Store.replace_stale hstored hname hversion)]
  exact ⟨rfl, rfl⟩

end Contention

end RingKeeper
