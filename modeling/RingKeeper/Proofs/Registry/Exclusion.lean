import RingKeeper.Proofs.Registry.Steps

/-!
# One live guard

1. `OnePerHolder` admits the events of holders that make one call at a time, while nobody else
   writes the lock and the configmap stays.
2. `Excludes` is kept by all that can happen then: whoever has a live guard has the lock, and a call
   that is freeing the lock has no live guard any more.
3. `live_guard_has_lock` says that in every world the lock names each holder of a live guard, so
   that there is at most one.
-/

namespace RingKeeper.Contention

open Registry
open Rehearsal (Call Outcome)

variable {ι : Type} {r : Registry} {call : ι → Call} {w w' : World ι} {e : Event ι}

/--
Admits a call while no other of the same holder is under way, and edits that keep the lock. All
answers and all failures are admitted.
-/
def OnePerHolder (call : ι → Call) (w : World ι) : Event ι → Prop
  | .start i => ∀ j holder, (w.activity j).IsUnderWay → (call j).holder? = some holder →
    (call i).holder? ≠ some holder
  | .edit e => ∀ c, w.store.configMap? = some c → (e.apply c).lockedBy = c.lockedBy
  | .delete => False
  | _ => True

/-! ## The guards of one call -/

section
variable {call : Call} {made : Bool} {a b : Activity} {holder : String}

theorem Moves.isUnderWay (h : Moves r call made a b) : a.IsUnderWay := by
  cases h <;> trivial

/-- A call that goes on without having written takes no guard. -/
theorem Moves.guards_subset (h : Moves r call false a b) (live : Set String) :
    guards live a b ⊆ live := by
  cases h with
  | hasTaken hcall h =>
    obtain ⟨f, rfl⟩ := h
    rcases hcall with rfl | ⟨address, rfl⟩ <;> exact subset_rfl
  | hasWritten h => exact fun _ hmem => hmem.1
  | _ => exact subset_rfl

/-- A call that goes on takes no guard but its holder's, and that only if it was taking the lock. -/
theorem Moves.of_mem_guards (h : Moves r call made a b) {live : Set String}
    (hmem : holder ∈ guards live a b) :
    holder ∈ live ∨ a.leg = .taking ∧ call.holder? = some holder := by
  cases h with
  | @hasTaken made rest name taken hcall h =>
    cases taken with
    | error f => rcases hcall with rfl | ⟨address, rfl⟩ <;> exact Or.inl hmem
    | ok guard =>
      have hguard : guard = ⟨r, name⟩ := by
        unfold Succeeds at h
        split at h
        · exact Except.ok.inj h
        · obtain ⟨f, hf⟩ := h
          cases hf
      subst hguard
      have hinsert : holder ∈ insert name live := by
        rcases hcall with rfl | ⟨address, rfl⟩ <;> exact hmem
      rcases hinsert with rfl | hlive
      · exact Or.inr ⟨rfl, hcall.holder?_eq⟩
      · exact Or.inl hlive
  | hasWritten h => exact Or.inl hmem.1
  | _ => exact Or.inl hmem

/-- No call that is freeing the lock has a live guard. -/
theorem Moves.not_mem_of_freeing (h : Moves r call made a b) {seen seen' : Option ConfigMap}
    (ha : Follows r call seen a) (hb : Follows r call seen' b) {live : Set String}
    (hcall : call.holder? = some holder) (hleg : b.leg = .freeing)
    (hkept : a.leg = .freeing → holder ∉ live) : holder ∉ guards live a b := by
  cases h with
  | reads => cases hleg
  | hasRead => cases hleg
  | takes => cases hleg
  | hasTaken htakes h =>
    rename_i taken
    rcases htakes with rfl | ⟨address, rfl⟩
    · cases hleg
    · cases taken <;> cases hleg
  | writes => cases hleg
  | hasWritten h =>
    obtain ⟨pod, address, rfl, rfl, -⟩ := ha
    cases hcall
    exact fun hmem => hmem.2 rfl
  | frees => exact hkept rfl
  | hasFreed => cases hleg

end

/-! ## The invariant -/

structure Excludes (call : ι → Call) (w : World ι) : Prop where
  /-- The lock names whoever has a live guard. -/
  named : ∀ holder ∈ w.live, holder ≠ "" ∧
    ∃ c version, w.store.stored = some (c, version) ∧ c.lockedBy = holder
  freed : ∀ i holder, (call i).holder? = some holder → (w.activity i).leg = .freeing →
    holder ∉ w.live
  alone : ∀ i j holder, (w.activity i).IsUnderWay → (w.activity j).IsUnderWay →
    (call i).holder? = some holder → (call j).holder? = some holder → i = j

/-- A replacement that a call makes leaves the lock to whoever has a live guard. -/
theorem Excludes.lockedBy_edit (h : Excludes call w) {i : ι} {made : Bool} {a : Activity}
    (hmoves : Moves r (call i) made (w.activity i) a) {c : ConfigMap} {version : Nat}
    (hstored : w.store.stored = some (c, version))
    (hpermits : (call i).Permits (w.activity i).leg (c.atVersion version)) {holder : String}
    (hmem : holder ∈ guards w.live (w.activity i) a) :
    ((call i).edit (w.activity i).leg (c.atVersion version)).lockedBy = holder := by
  have hlocked : holder ∈ w.live → holder ≠ "" ∧ c.lockedBy = holder := by
    intro hlive
    obtain ⟨hne, d, n, hd, hlock⟩ := h.named holder hlive
    rw [hstored] at hd
    cases hd
    exact ⟨hne, hlock⟩
  cases hleg : (w.activity i).leg with
  | reading => rw [hleg] at hpermits; exact hpermits.elim
  | taking =>
    rw [hleg] at hpermits
    obtain ⟨name, htakes, hfree⟩ := hpermits
    have hname : name = holder := by
      rcases hmoves.of_mem_guards hmem with hlive | ⟨-, hcall⟩
      · obtain ⟨hne, hlock⟩ := hlocked hlive
        rcases hfree with hfree | hown
        · exact absurd (hlock.symm.trans hfree) hne
        · exact hown.symm.trans hlock
      · exact Option.some.inj (htakes.holder?_eq.symm.trans hcall)
    rw [htakes.edit_eq, ConfigMap.lockedBy_lockFor, hname]
  | writing =>
    rw [hleg] at hpermits
    obtain ⟨pod, address, hi⟩ := hpermits
    rcases hmoves.of_mem_guards hmem with hlive | ⟨htaking, -⟩
    · rw [hi]
      exact (ConfigMap.lockedBy_recordAddress _ _ _).trans (hlocked hlive).2
    · rw [hleg] at htaking
      cases htaking
  | freeing =>
    rw [hleg] at hpermits
    rcases hmoves.of_mem_guards hmem with hlive | ⟨htaking, -⟩
    · have hown : (call i).holder? = some holder := by
        rw [show (call i).holder? = some c.lockedBy from hpermits, (hlocked hlive).2]
      exact absurd hlive (h.freed i holder hown hleg)
    · rw [hleg] at htaking
      cases htaking

variable [DecidableEq ι]

/-- A call that has a successor under way is under way itself. -/
theorem Moves.isUnderWay_of_update {made : Bool} {a : Activity} {i : ι}
    (h : Moves r (call i) made (w.activity i) a) {j : ι}
    (hj : (Function.update w.activity i a j).IsUnderWay) : (w.activity j).IsUnderWay := by
  by_cases hji : j = i
  · subst hji
    exact h.isUnderWay
  · rwa [Function.update_of_ne hji] at hj

/-- The guards after a call has gone on: none of a holder that is freeing the lock. -/
theorem Excludes.freed_update {made : Bool} {a : Activity} {i : ι} {seen : Option ConfigMap}
    (h : Excludes call w) (hs : Sound r call w) (ha : Follows r (call i) seen a)
    (hmoves : Moves r (call i) made (w.activity i) a) (j : ι) (holder : String)
    (hcall : (call j).holder? = some holder)
    (hleg : (Function.update w.activity i a j).leg = .freeing) :
    holder ∉ guards w.live (w.activity i) a := by
  by_cases hji : j = i
  · subst hji
    rw [Function.update_self] at hleg
    exact hmoves.not_mem_of_freeing (hs.follows j) ha hcall hleg (h.freed j holder hcall)
  · rw [Function.update_of_ne hji] at hleg
    intro hmem
    rcases hmoves.of_mem_guards hmem with hlive | ⟨-, hi⟩
    · exact h.freed j holder hcall hleg hlive
    · have hj : (w.activity j).IsUnderWay := by
        cases hact : w.activity j with
        | waiting => rw [hact] at hleg; cases hleg
        | returned o => rw [hact] at hleg; cases hleg
        | _ => trivial
      exact hji (h.alone j i holder hj hmoves.isUnderWay hcall hi)

theorem guardsAtStart_subset (live : Set String) (call : Call) :
    guardsAtStart live call ⊆ live := by
  cases call with
  | release holder => exact fun _ hmem => hmem.1
  | _ => exact subset_rfl

/-- A call that begins by freeing the lock gives up its guard with that. -/
theorem not_mem_guardsAtStart {call : Call} {holder : String} (hcall : call.holder? = some holder)
    (hleg : ((Activity.first r call).settle r call).leg = .freeing) (live : Set String) :
    holder ∉ guardsAtStart live call := by
  cases call with
  | release name =>
    cases hcall
    exact fun hmem => hmem.2 rfl
  | _ => cases hleg

theorem Excludes.step (hnames : ∀ i holder, (call i).holder? = some holder → holder ≠ "")
    (hs : Sound r call w) (h : Excludes call w) (he : OnePerHolder call w e)
    (hb : Becomes r call w e w') : Excludes call w' := by
  cases hb with
  | same => exact h
  | started i hi =>
    have hshrinks := guardsAtStart_subset w.live (call i)
    refine ⟨fun holder hlive => h.named holder (hshrinks hlive), ?_, ?_⟩
    · intro j holder hcall hleg
      dsimp only at hleg ⊢
      by_cases hji : j = i
      · subst hji
        exact not_mem_guardsAtStart hcall (by rwa [Function.update_self] at hleg) w.live
      · rw [Function.update_of_ne hji] at hleg
        exact fun hlive => h.freed j holder hcall hleg (hshrinks hlive)
    · intro j k holder hj hk hcallj hcallk
      dsimp only at hj hk
      by_cases hji : j = i <;> by_cases hki : k = i
      · exact hji.trans hki.symm
      · subst hji
        rw [Function.update_of_ne hki] at hk
        exact absurd hcallj (he k holder hk hcallk)
      · subst hki
        rw [Function.update_of_ne hji] at hj
        exact absurd hcallk (he j holder hj hcallj)
      · rw [Function.update_of_ne hji] at hj
        rw [Function.update_of_ne hki] at hk
        exact h.alone j k holder hj hk hcallj hcallk
  | heard i hseen hfollows hmoves =>
    refine ⟨fun holder hlive => h.named holder (hmoves.guards_subset _ hlive),
      h.freed_update hs hfollows hmoves, fun j k holder hj hk => ?_⟩
    exact h.alone j k holder (hmoves.isUnderWay_of_update hj) (hmoves.isUnderWay_of_update hk)
  | wrote i hstored hseen hpermits hfollows hmoves =>
    refine ⟨fun holder hlive => ⟨?_, _, _, rfl, h.lockedBy_edit hmoves hstored hpermits hlive⟩,
      h.freed_update hs hfollows hmoves, fun j k holder hj hk => ?_⟩
    · rcases hmoves.of_mem_guards hlive with hold | ⟨-, hcall⟩
      · exact (h.named holder hold).1
      · exact hnames i holder hcall
    · exact h.alone j k holder (hmoves.isUnderWay_of_update hj) (hmoves.isUnderWay_of_update hk)
  | edited e hstored =>
    refine ⟨fun holder hlive => ?_, h.freed, h.alone⟩
    obtain ⟨hne, c, version, hc, hlock⟩ := h.named holder hlive
    rw [hstored] at hc
    cases hc
    exact ⟨hne, _, _, rfl, (he _ (Store.configMap?_eq hstored)).trans hlock⟩
  | deleted => exact he.elim

/--
**Mutual exclusion.** However the calls interleave and whichever of them fail, the lock names each
holder of a live guard; so no two holders have live guards at once.
-/
theorem live_guard_has_lock (r : Registry) (call : ι → Call)
    (hnames : ∀ i holder, (call i).holder? = some holder → holder ≠ "") (store : Store)
    (hw : Reaches r call (OnePerHolder call) store w) :
    (∀ holder ∈ w.live, ∃ c, w.store.configMap? = some c ∧ c.lockedBy = holder) ∧
      ∀ holder ∈ w.live, ∀ other ∈ w.live, holder = other := by
  have hfresh : Excludes call (World.fresh store) :=
    ⟨fun _ h => False.elim h, fun _ _ _ h => (nomatch h), fun _ _ _ h => False.elim h⟩
  have h : Excludes call w := hw.invariant hfresh fun hs h he hb => h.step hnames hs he hb
  have hlock : ∀ holder ∈ w.live, ∃ c, w.store.configMap? = some c ∧ c.lockedBy = holder := by
    intro holder hlive
    obtain ⟨-, c, version, hc, hlock⟩ := h.named holder hlive
    exact ⟨_, Store.configMap?_eq hc, hlock⟩
  refine ⟨hlock, fun holder hlive other hother => ?_⟩
  obtain ⟨c, hc, rfl⟩ := hlock holder hlive
  obtain ⟨d, hd, rfl⟩ := hlock other hother
  rw [hc] at hd
  cases hd
  rfl

/-- Two pods that want the same lock. -/
def rivals : Bool → Call := fun first => .acquire (if first then "pod-0" else "pod-1")

def unlocked : Store := ⟨some ({ metadata := { name := some "registry" } }, 1)⟩

/-- Both have read the registry before the first one takes the lock. -/
def rivalsRun : World Bool :=
  (World.fresh unlocked).run ⟨"registry"⟩ rivals
    [.start true, .start false, .answer true, .answer false, .answer true, .answer false,
      .answer false]

theorem live_guard_has_lock_rivals :
    "pod-0" ∈ rivalsRun.live ∧
      ∃ c, rivalsRun.store.configMap? = some c ∧ c.lockedBy = "pod-0" := by
  have hnames : ∀ i holder, (rivals i).holder? = some holder → holder ≠ "" := by
    intro i holder h
    cases i <;> cases h <;> decide
  have hreached : Reaches ⟨"registry"⟩ rivals (OnePerHolder rivals) unlocked rivalsRun := by
    refine Reaches.start.run ⟨fun _ _ h => False.elim h, ?_, trivial, trivial, trivial, trivial,
      trivial, trivial⟩
    intro j holder hj hcall
    cases j with
    | false => exact False.elim hj
    | true => cases hcall; decide
  have hlive : "pod-0" ∈ rivalsRun.live := Or.inl rfl
  exact ⟨hlive, (live_guard_has_lock ⟨"registry"⟩ rivals hnames _ hreached).1 "pod-0" hlive⟩

end RingKeeper.Contention
