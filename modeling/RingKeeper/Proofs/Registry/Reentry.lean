import Mathlib.Data.List.Induction
import RingKeeper.Proofs.Registry.History
import RingKeeper.Proofs.Registry.Undisturbed

/-!
# A lock that can be entered again

The lock knows its holder by name only. A second call of a holder that has the lock enters it as
well, and whichever of the two is done first frees it for both. The other one goes on to record its
address, in whatever it reads then.

1. `lockIn` is what a log makes of the lock, and `legsOf` what one call has written. `KeepsLock`
   admits everything but edits of the lock by others.
2. `Logged` says that the lock is what the log makes of it, and that each entry was justified by the
   ones before it. `logged_of_reaches` proves it of all worlds.
3. `FreedByOther` says that another call of a holder has freed the lock that was taken for it. By
   `FreedByOther.lockIn_ne` and `freedByOther_of_ne`, that is how a holder loses the lock.
4. `recorded_without_lock_iff` puts them together: an address is recorded under the lock, unless
   another call of the same holder has freed it. `recorded_without_lock` is a run in which one has.
-/

namespace RingKeeper.Contention

open Registry
open Rehearsal (Call Outcome)

variable {ι : Type} {r : Registry} {call : ι → Call} {w w' : World ι} {e : Event ι}
  {log earlier later : List (Entry ι)} {x : Write ι} {holder lock : String}

/-! ## The lock and the log -/

/-- Admits everything but edits of the lock by someone else. -/
def KeepsLock (w : World ι) : Event ι → Prop
  | .edit e => ∀ c, w.store.configMap? = some c → (e.apply c).lockedBy = c.lockedBy
  | _ => True

/-- What the entry makes of the lock. -/
def Entry.lockAfter (call : ι → Call) (lock : String) : Entry ι → String
  | .write x =>
    match x.leg with
    | .taking => (call x.caller).holder?.getD lock
    | .freeing => ""
    | _ => lock
  | .edit _ => lock

theorem Entry.lockAfter_taking (hleg : x.leg = .taking)
    (hcall : (call x.caller).holder? = some holder) :
    (Entry.write x).lockAfter call lock = holder := by
  simp [Entry.lockAfter, hleg, hcall]

theorem Entry.lockAfter_freeing (hleg : x.leg = .freeing) :
    (Entry.write x).lockAfter call lock = "" := by
  simp [Entry.lockAfter, hleg]

theorem Entry.lockAfter_writing (hleg : x.leg = .writing) :
    (Entry.write x).lockAfter call lock = lock := by
  simp [Entry.lockAfter, hleg]

/-- Who has the lock after these entries. -/
def lockIn (call : ι → Call) (lock : String) (log : List (Entry ι)) : String :=
  log.foldl (fun lock e => e.lockAfter call lock) lock

theorem lockIn_cons (call : ι → Call) (lock : String) (e : Entry ι)
    (log : List (Entry ι)) :
    lockIn call lock (e :: log) = lockIn call (e.lockAfter call lock) log := rfl

theorem lockIn_append (call : ι → Call) (lock : String) (log log' : List (Entry ι)) :
    lockIn call lock (log ++ log') = lockIn call (lockIn call lock log) log' :=
  List.foldl_append

/-- The lock in the edit of a call, where it may make it, is what its entry says. -/
theorem lockedBy_edit {c : ConfigMap} (h : (call x.caller).Permits x.leg c) :
    ((call x.caller).edit x.leg c).lockedBy = (Entry.write x).lockAfter call c.lockedBy := by
  cases hleg : x.leg with
  | reading =>
    rw [hleg] at h
    exact h.elim
  | taking =>
    rw [hleg] at h
    obtain ⟨holder, htakes, -⟩ := h
    rw [htakes.edit_eq, Entry.lockAfter_taking hleg htakes.holder?_eq]
    exact ConfigMap.lockedBy_lockFor c holder
  | writing =>
    rw [hleg] at h
    obtain ⟨pod, address, hcall⟩ := h
    rw [hcall, Entry.lockAfter_writing hleg]
    exact ConfigMap.lockedBy_recordAddress c pod address
  | freeing =>
    rw [Rehearsal.Call.edit_freeing, Entry.lockAfter_freeing hleg]
    exact ConfigMap.lockedBy_lockFor c ""

/-! ## Where the lock goes -/

/-- Another call of this holder has freed the lock, and nobody has taken it for the holder since. -/
def FreedByOther (call : ι → Call) (holder : String) (i : ι) (log : List (Entry ι)) : Prop :=
  ∃ before y after, log = before ++ .write y :: after ∧ y.leg = .freeing ∧ y.caller ≠ i ∧
    (call y.caller).holder? = some holder ∧
    ∀ z, .write z ∈ after → z.leg = .taking → (call z.caller).holder? ≠ some holder

/-- A lock that is not the holder's does not become its by an entry that does not take it for it. -/
theorem Entry.lockAfter_ne (hne : holder ≠ "") (hlock : lock ≠ holder) {e : Entry ι}
    (h : ∀ z, e = .write z → z.leg = .taking → (call z.caller).holder? ≠ some holder) :
    e.lockAfter call lock ≠ holder := by
  cases e with
  | edit e => exact hlock
  | write z =>
    cases hleg : z.leg with
    | taking =>
      have hother := h z rfl hleg
      cases hcall : (call z.caller).holder? with
      | none => simpa [Entry.lockAfter, hleg, hcall] using hlock
      | some name =>
        rw [Entry.lockAfter_taking hleg hcall]
        rintro rfl
        exact hother hcall
    | freeing =>
      rw [Entry.lockAfter_freeing hleg]
      exact hne.symm
    | _ => simpa [Entry.lockAfter, hleg] using hlock

theorem lockIn_ne (hne : holder ≠ "") (hlock : lock ≠ holder)
    (h : ∀ z, .write z ∈ log → z.leg = .taking → (call z.caller).holder? ≠ some holder) :
    lockIn call lock log ≠ holder := by
  induction log generalizing lock with
  | nil => exact hlock
  | cons e log ih =>
    rw [lockIn_cons]
    refine ih ?_ fun z hz => h z (List.mem_cons_of_mem _ hz)
    exact Entry.lockAfter_ne hne hlock fun z hz => h z (hz ▸ List.mem_cons_self)

/-! ## What a call has written -/

section
variable [DecidableEq ι] {i j : ι} {legs : List Leg}

/-- The part in which the call wrote this entry, if it did. -/
def Entry.legOf? (i : ι) : Entry ι → Option Leg
  | .write x => if x.caller = i then some x.leg else none
  | .edit _ => none

/-- The parts in which the call has written. -/
def legsOf (i : ι) (log : List (Entry ι)) : List Leg := log.filterMap (Entry.legOf? i)

theorem legsOf_append (i : ι) (log log' : List (Entry ι)) :
    legsOf i (log ++ log') = legsOf i log ++ legsOf i log' := List.filterMap_append

theorem legsOf_self (h : x.caller = i) : legsOf i [.write x] = [x.leg] := by
  simp [legsOf, Entry.legOf?, h]

theorem legsOf_of_ne (h : x.caller ≠ i) : legsOf i [.write x] = [] := by
  simp [legsOf, Entry.legOf?, h]

theorem mem_legsOf {leg : Leg} :
    leg ∈ legsOf i log ↔ ∃ x, .write x ∈ log ∧ x.caller = i ∧ x.leg = leg := by
  constructor
  · intro h
    obtain ⟨e, he, hleg⟩ := List.mem_filterMap.mp h
    cases e with
    | edit e => cases hleg
    | write x =>
      by_cases hx : x.caller = i
      · rw [Entry.legOf?, if_pos hx] at hleg
        exact ⟨x, he, hx, Option.some.inj hleg⟩
      · rw [Entry.legOf?, if_neg hx] at hleg
        cases hleg
  · rintro ⟨x, hx, rfl, rfl⟩
    exact List.mem_filterMap.mpr ⟨.write x, hx, if_pos rfl⟩

/-- What a call can have written by now: nothing before it has the lock, and then the lock. -/
def LegsFit : Activity → List Leg → Prop
  | .writing .., legs => legs = [.taking]
  | .freeing .., _ => True
  | .returned _, _ => True
  | _, legs => legs = []

theorem legsFit_first (r : Registry) (call : Call) :
    LegsFit ((Activity.first r call).settle r call) [] := by
  cases call <;> trivial

theorem Moves.legsFit {call : Call} {made : Bool} {a b : Activity} (h : Moves r call made a b)
    (hfit : LegsFit a legs) : LegsFit b (legs ++ if made then [a.leg] else []) := by
  cases h with
  | hasRead => trivial
  | hasWritten => trivial
  | hasFreed => trivial
  | frees => trivial
  | @hasTaken made rest holder taken hcall h =>
    obtain rfl : legs = [] := hfit
    cases made with
    | true =>
      obtain rfl : taken = .ok ⟨r, holder⟩ := h
      rcases hcall with rfl | ⟨address, rfl⟩ <;> trivial
    | false =>
      obtain ⟨f, rfl⟩ := h
      rcases hcall with rfl | ⟨address, rfl⟩ <;> trivial
  | reads => exact (List.append_nil legs).trans hfit
  | takes => exact (List.append_nil legs).trans hfit
  | writes => exact (List.append_nil legs).trans hfit

/-! ## The invariant -/

/-- The entry was written where its caller may, and an address by a call that has taken the lock. -/
structure Justified (call : ι → Call) (lock : String) (earlier : List (Entry ι)) (x : Write ι) :
    Prop where
  found : ∃ c, x.found = some c ∧ c.lockedBy = lockIn call lock earlier ∧
    (call x.caller).Permits x.leg c
  taken : x.leg = .writing → legsOf x.caller earlier = [.taking]

/-- Each entry of the log is justified by the ones before it. -/
def AllJustified (call : ι → Call) (lock : String) (log : List (Entry ι)) : Prop :=
  ∀ earlier x later, log = earlier ++ .write x :: later → Justified call lock earlier x

theorem AllJustified.append {e : Entry ι} (h : AllJustified call lock log)
    (hnew : ∀ x, e = .write x → Justified call lock log x) :
    AllJustified call lock (log ++ [e]) := by
  intro earlier x later hlog
  rcases List.eq_nil_or_concat later with rfl | ⟨later, last, rfl⟩
  · obtain ⟨rfl, hlast⟩ := List.append_inj' hlog rfl
    exact hnew x (List.cons.inj hlast).1
  · have hsplit : log ++ [e] = (earlier ++ .write x :: later) ++ [last] := by
      rw [hlog, List.concat_eq_append, List.append_assoc, List.cons_append]
    exact h earlier x later (List.append_inj' hsplit rfl).1

/-- The lock is what the log makes of it, and the log is what the calls did. -/
structure Logged (call : ι → Call) (lock : String) (w : World ι) : Prop where
  stored : ∀ c version, w.store.stored = some (c, version) → c.lockedBy = lockIn call lock w.log
  legs : ∀ i, LegsFit (w.activity i) (legsOf i w.log)
  justified : AllJustified call lock w.log

/-- When one call goes on, the others still fit what they have written. -/
theorem legsFit_update {legs : ι → List Leg} (h : ∀ j, LegsFit (w.activity j) (legsOf j w.log))
    {a : Activity} (hi : LegsFit a (legs i)) (hothers : ∀ j, j ≠ i → legs j = legsOf j w.log)
    (j : ι) : LegsFit (Function.update w.activity i a j) (legs j) := by
  by_cases hj : j = i
  · subst hj
    rw [Function.update_self]
    exact hi
  · rw [Function.update_of_ne hj, hothers j hj]
    exact h j

/-- When a call has replaced what is stored by its own edit, the log has its entry. -/
theorem Logged.write (h : Logged call lock w) {c : ConfigMap} {version : Nat}
    (hstored : w.store.stored = some (c, version))
    (hpermits : (call x.caller).Permits x.leg (c.atVersion version)) {a : Activity}
    (hmoves : Moves r (call x.caller) true (w.activity x.caller) a)
    (hleg : x.leg = (w.activity x.caller).leg) (hfound : x.found = w.store.configMap?)
    (hstore : w'.store = ⟨some ((call x.caller).edit x.leg (c.atVersion version), version + 1)⟩)
    (hactivity : w'.activity = Function.update w.activity x.caller a)
    (hlog : w'.log = w.log ++ [.write x]) : Logged call lock w' := by
  have hlock : (c.atVersion version).lockedBy = lockIn call lock w.log := h.stored c version hstored
  have hfit := hmoves.legsFit (h.legs x.caller)
  rw [if_pos rfl, ← hleg] at hfit
  refine ⟨?_, ?_, ?_⟩
  · rw [hstore, hlog]
    rintro d n ⟨⟩
    rw [lockIn_append, ← hlock]
    exact lockedBy_edit hpermits
  · rw [hactivity, hlog]
    refine legsFit_update h.legs ?_ fun j hj => ?_
    · rw [legsOf_append, legsOf_self rfl]
      exact hfit
    · rw [legsOf_append, legsOf_of_ne hj.symm, List.append_nil]
  · rw [hlog]
    refine h.justified.append ?_
    rintro y ⟨⟩
    refine ⟨⟨_, hfound.trans (Store.configMap?_eq hstored), hlock, hpermits⟩, fun hwriting => ?_⟩
    have hown := h.legs x.caller
    rw [hleg] at hwriting
    cases hact : w.activity x.caller with
    | writing guard rest =>
      rw [hact] at hown
      exact hown
    | _ =>
      rw [hact] at hwriting
      cases hwriting

theorem Logged.step (h : Logged call lock w) (he : KeepsLock w e)
    (hb : Becomes r call w e w') : Logged call lock w' := by
  cases hb with
  | same => exact h
  | started i hi =>
    have hfirst : LegsFit ((Activity.first r (call i)).settle r (call i)) (legsOf i w.log) := by
      have hnone : LegsFit .waiting (legsOf i w.log) := hi ▸ h.legs i
      rw [show legsOf i w.log = [] from hnone]
      exact legsFit_first r (call i)
    exact ⟨h.stored, legsFit_update h.legs hfirst fun _ _ => rfl, h.justified⟩
  | heard i hseen hfollows hmoves =>
    have hfit := hmoves.legsFit (h.legs i)
    rw [if_neg Bool.false_ne_true, List.append_nil] at hfit
    exact ⟨h.stored, legsFit_update h.legs hfit fun _ _ => rfl, h.justified⟩
  | wrote i hstored hseen hpermits hfollows hmoves =>
    exact h.write hstored hpermits hmoves rfl rfl rfl rfl rfl
  | @edited e c version hstored =>
    refine ⟨?_, fun j => ?_, h.justified.append fun x hx => nomatch hx⟩
    · rintro d n ⟨⟩
      rw [lockIn_append, ← h.stored c version hstored]
      exact he _ (Store.configMap?_eq hstored)
    · dsimp only
      rw [legsOf_append]
      exact (List.append_nil _).symm ▸ h.legs j
  | deleted => exact ⟨fun c version hs => (nomatch hs), h.legs, h.justified⟩

theorem logged_of_reaches {first : ConfigMap × Nat}
    (hw : Reaches r call KeepsLock ⟨some first⟩ w) : Logged call first.1.lockedBy w := by
  refine hw.invariant ⟨?_, fun i => rfl, ?_⟩ fun _ h he hb => h.step he hb
  · rintro c version ⟨⟩
    rfl
  · intro earlier x later hlog
    cases earlier <;> cases hlog

end

/-! ## Losing the lock -/

variable {i : ι}

/-- A lock that was freed and not taken for the holder since is not the holder's. -/
theorem FreedByOther.lockIn_ne (h : FreedByOther call holder i log) (hne : holder ≠ "") :
    lockIn call lock log ≠ holder := by
  obtain ⟨before, y, after, rfl, hleg, -, -, hafter⟩ := h
  rw [lockIn_append, lockIn_cons, Entry.lockAfter_freeing hleg]
  exact Contention.lockIn_ne hne hne.symm hafter

/-- An entry that takes the lock from a holder that has it frees it for the holder. -/
theorem frees_of_lockAfter_ne {c : ConfigMap} (hne : holder ≠ "") (hlock : c.lockedBy = holder)
    (hpermits : (call x.caller).Permits x.leg c)
    (h : (Entry.write x).lockAfter call holder ≠ holder) :
    x.leg = .freeing ∧ (call x.caller).holder? = some holder := by
  cases hleg : x.leg with
  | reading =>
    rw [hleg] at hpermits
    exact hpermits.elim
  | taking =>
    rw [hleg] at hpermits
    obtain ⟨name, htakes, hempty | hown⟩ := hpermits
    · exact absurd (hlock.symm.trans hempty) hne
    · rw [Entry.lockAfter_taking hleg htakes.holder?_eq] at h
      exact absurd (hown.symm.trans hlock) h
  | writing => exact absurd (Entry.lockAfter_writing hleg) h
  | freeing =>
    rw [hleg] at hpermits
    exact ⟨rfl, hlock ▸ hpermits⟩

/-- A holder that has lost the lock has it freed by another of its calls. -/
theorem freedByOther_of_ne (hne : holder ≠ "")
    (hpermits : ∀ before x after, log = before ++ .write x :: after →
      ∃ c, c.lockedBy = lockIn call holder before ∧ (call x.caller).Permits x.leg c)
    (hothers : ∀ x, .write x ∈ log → x.leg = .freeing → x.caller ≠ i)
    (h : lockIn call holder log ≠ holder) : FreedByOther call holder i log := by
  -- on the last entry: it frees the lock, or it leaves it lost
  induction log using List.reverseRecOn with
  | nil => exact absurd rfl h
  | append_singleton log e ih =>
    rw [lockIn_append] at h
    by_cases hheld : lockIn call holder log = holder
    · rw [hheld] at h
      cases e with
      | edit e => exact absurd rfl h
      | write x =>
        obtain ⟨c, hc, hmay⟩ := hpermits log x [] rfl
        obtain ⟨hleg, hcall⟩ := frees_of_lockAfter_ne hne (hc.trans hheld) hmay h
        have hmem : Entry.write x ∈ log ++ [.write x] := List.mem_append_right _ List.mem_cons_self
        exact ⟨log, x, [], rfl, hleg, hothers x hmem hleg, hcall, fun z hz => nomatch hz⟩
    · have hearlier := ih
        (fun before x after hlog => hpermits before x (after ++ [e]) (by rw [hlog]; simp))
        (fun x hx => hothers x (List.mem_append_left _ hx)) hheld
      obtain ⟨before, y, after, rfl, hleg, hother, hcall, hafter⟩ := hearlier
      refine ⟨before, y, after ++ [e], by simp, hleg, hother, hcall, fun z hz hztaking hz' => ?_⟩
      rcases List.mem_append.mp hz with hz | hz
      · exact hafter z hz hztaking hz'
      · obtain rfl := List.mem_singleton.mp hz
        exact h (Entry.lockAfter_taking hztaking hz')

variable [DecidableEq ι]

/--
**Recorded without the lock.** Whatever fails and whoever else writes, as long as nobody else edits
the lock, a commit has taken it for its pod before it records an address. But where it does so, the
lock is not the pod's any more exactly if another call of the same pod has freed it since, and none
has taken it for the pod again.
-/
theorem recorded_without_lock_iff (r : Registry) (call : ι → Call)
    (hnames : ∀ i holder, (call i).holder? = some holder → holder ≠ "") {first : ConfigMap × Nat}
    (hw : Reaches r call KeepsLock ⟨some first⟩ w)
    (hlog : w.log = earlier ++ .write x :: later) (hleg : x.leg = .writing) :
    ∃ pod address c before t between,
      call x.caller = .commit pod address ∧ x.found = some c ∧
        earlier = before ++ .write t :: between ∧ t.caller = x.caller ∧ t.leg = .taking ∧
        (c.lockedBy ≠ pod ↔ FreedByOther call pod x.caller between) := by
  have hjustified := (logged_of_reaches hw).justified
  obtain ⟨⟨c, hfound, hlock, hpermits⟩, htaken⟩ := hjustified earlier x later hlog
  rw [hleg] at hpermits
  obtain ⟨pod, address, hcall⟩ := hpermits
  have hne : pod ≠ "" := hnames x.caller pod (by rw [hcall]; rfl)
  -- the caller's one entry before is the one that took the lock
  have hlegs := htaken hleg
  obtain ⟨t, ht, htcaller, htleg⟩ := mem_legsOf.mp (hlegs ▸ List.mem_singleton_self Leg.taking)
  obtain ⟨before, between, rfl⟩ := List.append_of_mem ht
  have hholder : (call t.caller).holder? = some pod := by
    rw [htcaller, hcall]
    rfl
  have hsince : c.lockedBy = lockIn call pod between := by
    rw [hlock, lockIn_append, lockIn_cons, Entry.lockAfter_taking htleg hholder]
  refine ⟨pod, address, c, before, t, between, hcall, hfound, rfl, htcaller, htleg,
    fun hlost => ?_, fun hfreed => ?_⟩
  · rw [hsince] at hlost
    refine freedByOther_of_ne hne (fun b y after hbetween => ?_) (fun y hy hfreeing hown => ?_) hlost
    · have hsplit : w.log = (before ++ .write t :: b) ++ .write y :: (after ++ .write x :: later) := by
        rw [hlog, hbetween]
        simp
      obtain ⟨d, -, hd, hmay⟩ := (hjustified _ y _ hsplit).found
      rw [lockIn_append, lockIn_cons, Entry.lockAfter_taking htleg hholder] at hd
      exact ⟨d, hd, hmay⟩
    · have hmem : Leg.freeing ∈ legsOf x.caller (before ++ .write t :: between) :=
        mem_legsOf.mpr ⟨y, List.mem_append_right _ (List.mem_cons_of_mem _ hy), hown, hfreeing⟩
      rw [hlegs] at hmem
      cases List.mem_singleton.mp hmem
  · rw [hsince]
    exact hfreed.lockIn_ne hne

/-- An old and a new incarnation of one pod, and another pod. -/
def incarnations : Fin 3 → Call
  | 0 => .commit "pod-0" "10.0.0.8"
  | 1 => .commit "pod-0" "10.0.0.9"
  | 2 => .commit "pod-1" "10.0.0.7"

/--
The new incarnation enters the lock that the old one has; the old one records its address and frees
the lock; the other pod takes it, and then the new incarnation records its address.
-/
def incarnationsRun : World (Fin 3) :=
  (World.fresh ⟨some (emptyRegistry, 1)⟩).run ⟨"registry"⟩ incarnations
    [.start 0, .start 1, .start 2, .answer 0, .answer 0, .answer 1, .answer 1, .answer 0, .answer 0,
      .answer 0, .answer 0, .answer 2, .answer 2, .answer 1, .answer 1]

/-- The last entry of the run. -/
theorem incarnationsRun_entry :
    ∃ x, incarnationsRun.log[5]? = some (.write x) ∧ x.leg = .writing ∧ x.caller = 1 ∧
      ∃ c, x.found = some c ∧ c.lockedBy = "pod-1" := by
  refine ⟨_, rfl, ?_⟩
  exact ⟨rfl, rfl, _, rfl, rfl⟩

theorem recorded_without_lock_iff_incarnations :
    ∃ x c between, .write x ∈ incarnationsRun.log ∧ x.leg = .writing ∧ x.found = some c ∧
      c.lockedBy ≠ "pod-0" ∧ FreedByOther incarnations "pod-0" x.caller between := by
  have hnames : ∀ i holder, (incarnations i).holder? = some holder → holder ≠ "" := by
    intro i holder h
    match i with
    | 0 => cases h; decide
    | 1 => cases h; decide
    | 2 => cases h; decide
  have hreached : Reaches ⟨"registry"⟩ incarnations KeepsLock ⟨some (emptyRegistry, 1)⟩
      incarnationsRun :=
    Reaches.start.run ⟨trivial, trivial, trivial, trivial, trivial, trivial, trivial, trivial,
      trivial, trivial, trivial, trivial, trivial, trivial, trivial, trivial⟩
  obtain ⟨x, hx, hleg, hcaller, c, hfound, hlock⟩ := incarnationsRun_entry
  have hmem := List.mem_of_getElem? hx
  obtain ⟨earlier, later, hlog⟩ := List.append_of_mem hmem
  obtain ⟨pod, address, d, -, -, between, hcall, hd, -, -, -, hiff⟩ :=
    recorded_without_lock_iff ⟨"registry"⟩ incarnations hnames hreached hlog hleg
  rw [hcaller] at hcall
  cases hcall
  rw [hfound] at hd
  cases hd
  have hlost : c.lockedBy ≠ "pod-0" := by
    rw [hlock]
    decide
  exact ⟨x, c, between, hmem, hleg, hfound, hlost, hiff.mp hlost⟩

/-- The new incarnation of `pod-0` records its address while `pod-1` has the lock. -/
theorem recorded_without_lock :
    emptyRegistry.lockedBy = "" ∧
      Reaches ⟨"registry"⟩ incarnations Undisturbed ⟨some (emptyRegistry, 1)⟩ incarnationsRun ∧
      ∃ x c, .write x ∈ incarnationsRun.log ∧ x.leg = .writing ∧
        incarnations x.caller = .commit "pod-0" "10.0.0.9" ∧ x.found = some c ∧
        c.lockedBy = "pod-1" := by
  refine ⟨rfl, Reaches.start.run ?_, ?_⟩
  · exact ⟨trivial, trivial, trivial, trivial, trivial, trivial, trivial, trivial, trivial, trivial,
      trivial, trivial, trivial, trivial, trivial, trivial⟩
  · obtain ⟨x, hx, hleg, hcaller, c, hfound, hlock⟩ := incarnationsRun_entry
    exact ⟨x, c, List.mem_of_getElem? hx, hleg, by rw [hcaller]; rfl, hfound, hlock⟩

end RingKeeper.Contention
