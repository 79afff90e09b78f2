import RingKeeper.Proofs.Recovery.Convergence
import RingKeeper.Proofs.Recovery.ForeignVolumes

/-!
# Wherever a recovery stops

A recovery may be killed after any of its calls, and any of its calls may fail, with or without
effect. Then it is tried again, as often as one likes.

1. `stopAfter` runs one attempt until it is over or killed, and `drive` one attempt after the other.
   They remember the calls that were made.
2. `changed_nothing` says that claims are looked up before anything is changed.
3. `Cluster.PartlyCleaned.trans` says that attempts add up to one clean start that was interrupted,
   and `partlyCleaned_drive` that nothing else is ever reached.
4. `claimed` counts the claims on one volume. Each replacement of the volume uses one up
   (`replacements_drive`), so that there is at most one.
-/

namespace RingKeeper.Recovery

open Cluster
open Plan (Exchange Notes Obeys OnlyAsks Runs)

variable {α : Type} {c c' c'' : Cluster} {inNamespace name volume : String} {pod : Pod}

/-! ## Attempts that may stop anywhere -/

/-- A call that an attempt made, and how it failed, if it did. -/
structure Made where
  question : Question
  failure : Option Failure

namespace Made

/-- Whether the cluster carried the call out. -/
def tookEffect (x : Made) : Bool := (x.failure.map Failure.applied).getD true

/-- What the attempt hears. -/
def answer (x : Made) (c : Cluster) : Answer x.question :=
  match x.failure with
  | none => (c.answer x.question).1
  | some failure => failed failure.fault x.question

/-- What the call makes of the cluster. -/
def effect (x : Made) (c : Cluster) : Cluster :=
  if x.tookEffect then (c.answer x.question).2 else c

/-- Whether the call looks a claim up and fails. -/
def IsFailedClaimLookup (x : Made) : Prop :=
  (∃ inNamespace name, x.question = .getClaim inNamespace name) ∧ x.failure ≠ none

/-- Whether the call is to replace the volume of this name. -/
def rewrites (volume : String) (x : Made) : Bool :=
  match x.question with
  | .replaceVolume v => decide (v.name = volume)
  | _ => false

/-- Whether the call was to replace the volume and did so. -/
def replaced (volume : String) (x : Made) : Bool := x.rewrites volume && x.tookEffect

theorem effect_of_not_changes {x : Made} (h : x.question.changes = false) (c : Cluster) :
    x.effect c = c := by
  unfold effect
  split
  · exact answer_of_not_changes h c
  · rfl

end Made

/--
Runs a procedure until it is over or killed. The schedule says of each of its calls whether it fails;
after the last one the procedure is killed.
-/
def stopAfter : List (Option Failure) → Procedure α → Cluster → List Made × Cluster
  | [], _, c => ([], c)
  | _, .done _, c => ([], c)
  | failure :: schedule, .ask q next, c =>
    let x : Made := ⟨q, failure⟩
    let (calls, left) := stopAfter schedule (next (x.answer c)) (x.effect c)
    (x :: calls, left)

/-- An attempt at a recovery: the eviction label that it goes by, and how its calls go. -/
structure Try where
  evictionLabel : Option String
  schedule : List (Option Failure)

/-- The calls of one attempt, and the cluster that it leaves. -/
def Try.run (t : Try) (inNamespace name : String) (c : Cluster) : List Made × Cluster :=
  stopAfter t.schedule (recover t.evictionLabel inNamespace name) c

/-- The calls of several attempts, one after the other, and the cluster that they leave. -/
def drive (inNamespace name : String) : List Try → Cluster → List Made × Cluster
  | [], c => ([], c)
  | t :: tries, c =>
    let (calls, c) := t.run inNamespace name c
    let (more, c) := drive inNamespace name tries c
    (calls ++ more, c)

theorem stopAfter_done (schedule : List (Option Failure)) (a : α) (c : Cluster) :
    stopAfter schedule (.done a) c = ([], c) := by
  cases schedule <;> rfl

theorem stopAfter_ask (failure : Option Failure) (schedule : List (Option Failure)) (q : Question)
    (next : Answer q → Procedure α) (c : Cluster) :
    stopAfter (failure :: schedule) (.ask q next) c =
      (⟨q, failure⟩ :: (stopAfter schedule (next (Made.answer ⟨q, failure⟩ c))
          (Made.effect ⟨q, failure⟩ c)).1,
        (stopAfter schedule (next (Made.answer ⟨q, failure⟩ c)) (Made.effect ⟨q, failure⟩ c)).2) :=
  rfl

/-- Wherever a procedure stops, it leaves a cluster that it passes through if nothing fails. -/
theorem passes_stopAfter {p : Procedure (Attempt α)} (hp : StopsAtFailure p)
    (schedule : List (Option Failure)) (c : Cluster) : Passes p c (stopAfter schedule p c).2 := by
  induction p generalizing schedule c with
  | done a =>
    rw [stopAfter_done]
    rfl
  | ask q next ih =>
    rcases schedule with _ | ⟨_ | failure, schedule⟩
    · exact Or.inl rfl
    · exact Or.inr (ih _ (hp.2 _) schedule _)
    · obtain ⟨f, hf⟩ := hp.1 failure.fault
      show Passes _ c (stopAfter schedule (next (failed failure.fault q)) _).2
      rw [hf, stopAfter_done]
      show _ = c ∨ _
      unfold Made.effect
      split
      · exact Or.inr (passes_start _ _)
      · exact Or.inl rfl

/-! ## Claims are looked up first -/

/-- Before a claim is looked up, nothing is changed. -/
def LooksFirst (q : Question) (past : List (Exchange Answer)) : Prop :=
  (∃ inNamespace name, q = .getClaim inNamespace name) → ∀ e ∈ past, e.1.changes = false

section
variable {p : Procedure α} {past past' : List (Exchange Answer)}

theorem looksFirst_of_onlyLooksUp (hp : OnlyLooksUp p) (hpast : ∀ e ∈ past, e.1.changes = false) :
    Obeys LooksFirst past p ∧ ∀ a past', Runs Notes p past a past' →
      ∀ e ∈ past', e.1.changes = false := by
  induction p generalizing past with
  | done a =>
    refine ⟨trivial, fun b past' h => ?_⟩
    rw [(Plan.runs_done.mp h).2]
    exact hpast
  | ask q next ih =>
    have hnext (x : Answer q) : ∀ e ∈ (⟨q, x⟩ :: past : List (Exchange Answer)),
        e.1.changes = false := List.forall_mem_cons.mpr ⟨hp.1, hpast⟩
    refine ⟨⟨fun _ => hpast, fun x => (ih x (hp.2 x) (hnext x)).1⟩, fun b past' h => ?_⟩
    obtain ⟨x, past₁, rfl, hrest⟩ := Plan.runs_ask.mp h
    exact (ih x (hp.2 x) (hnext x)).2 b past' hrest

theorem looksFirst_of_other (hp : OnlyAsks (fun q => ∀ ns n, q ≠ .getClaim ns n) p) :
    Obeys LooksFirst past p :=
  hp.obeys (fun _ _ hq ⟨ns, n, h⟩ => absurd h (hq ns n)) past

end

theorem onlyAsks_detach (volume : String) :
    OnlyAsks (fun q => ∀ ns n, q ≠ .getClaim ns n) (detach volume) := by
  refine ⟨fun ns n h => (nomatch h), fun x => ?_⟩
  cases x with
  | error f => trivial
  | ok found =>
    cases found with
    | none => trivial
    | some v =>
      show OnlyAsks _ (if v.claimRef?.isSome then ask (.replaceVolume v.unclaimed) else _)
      split
      · exact Plan.onlyAsks_request fun ns n h => nomatch h
      · trivial

theorem onlyAsks_forAll {β : Type} {may : Question → Prop} {step : β → Procedure (Attempt Unit)}
    (h : ∀ b, OnlyAsks may (step b)) (bs : List β) : OnlyAsks may (forAll step bs) := by
  induction bs with
  | nil => trivial
  | cons b bs ih =>
    refine (h b).bind fun x => ?_
    cases x with
    | error f => trivial
    | ok u => exact ih

/-- A clean start looks its claims up before it changes anything. -/
theorem looksFirst_startOver (pod : Pod) {past : List (Exchange Answer)}
    (hpast : ∀ e ∈ past, e.1.changes = false) : Obeys LooksFirst past (startOver pod) := by
  unfold startOver
  have hfind := looksFirst_of_onlyLooksUp (looksUp_findClaims pod.metadata.namespaceOrEmpty
    pod.mountedClaims).onlyLooksUp hpast
  refine hfind.1.bind fun x past' _ => ?_
  cases x with
  | error f => trivial
  | ok claims =>
    refine looksFirst_of_other ((onlyAsks_forAll onlyAsks_detach _).bind fun x => ?_)
    cases x with
    | error f => trivial
    | ok u =>
      refine (onlyAsks_forAll (fun claim => ?_) _).bind fun x => ?_
      · exact Plan.onlyAsks_request fun ns n h => nomatch h
      · cases x with
        | error f => trivial
        | ok u => exact Plan.onlyAsks_request fun ns n h => nomatch h

/-- A recovery looks its claims up before it changes anything. -/
theorem looksFirst_recover (evictionLabel : Option String) (inNamespace name : String) :
    Obeys LooksFirst [] (recover evictionLabel inNamespace name) := by
  refine ⟨fun _ e he => (nomatch he), fun x => ?_⟩
  cases x with
  | error f => trivial
  | ok found =>
    cases found with
    | none => trivial
    | some pod =>
      have hpast : ∀ e ∈ ([⟨.getPod inNamespace name, .ok (some pod)⟩] : List (Exchange Answer)),
          e.1.changes = false := List.forall_mem_cons.mpr ⟨rfl, fun e he => nomatch he⟩
      have hdiagnose :=
        looksFirst_of_onlyLooksUp (looksUp_diagnose pod evictionLabel).onlyLooksUp hpast
      refine hdiagnose.1.bind fun x past hrun => ?_
      cases x with
      | error f => trivial
      | ok verdict =>
        show Obeys LooksFirst past (if verdict.needsRecovery then _ else _)
        split
        · refine (looksFirst_startOver pod (hdiagnose.2 _ past hrun)).bind fun x past' _ => ?_
          cases x <;> trivial
        · trivial

/-- Where a claim cannot be looked up, nothing was changed before, and nothing is any more. -/
theorem unchanged_stopAfter {p : Procedure (Attempt α)} (hp : StopsAtFailure p)
    {past : List (Exchange Answer)} (hobeys : Obeys LooksFirst past p)
    {schedule : List (Option Failure)} {c : Cluster}
    (hfailed : ∃ x ∈ (stopAfter schedule p c).1, x.IsFailedClaimLookup) :
    (∀ e ∈ past, e.1.changes = false) ∧
      (∀ x ∈ (stopAfter schedule p c).1, x.question.changes = false) ∧
      (stopAfter schedule p c).2 = c := by
  induction p generalizing past schedule c with
  | done a =>
    rw [stopAfter_done] at hfailed
    obtain ⟨x, hx, -⟩ := hfailed
    cases hx
  | ask q next ih =>
    cases schedule with
    | nil =>
      obtain ⟨x, hx, -⟩ := hfailed
      cases hx
    | cons failure schedule =>
      obtain ⟨x, hx, hlookup⟩ := hfailed
      rcases List.mem_cons.mp hx with rfl | hx
      · -- this is the call that fails, and with it the attempt is over
        obtain ⟨⟨ns, n, rfl⟩, hfailure⟩ := hlookup
        cases failure with
        | none => exact absurd rfl hfailure
        | some failure =>
          obtain ⟨f, hf⟩ := hp.1 failure.fault
          refine ⟨hobeys.1 ⟨ns, n, rfl⟩, ?_⟩
          show (∀ x ∈ _ :: (stopAfter schedule (next (failed failure.fault _)) _).1, _) ∧
            (stopAfter schedule (next (failed failure.fault _)) _).2 = c
          rw [hf, stopAfter_done]
          exact ⟨List.forall_mem_cons.mpr ⟨rfl, fun x hx => nomatch hx⟩,
            Made.effect_of_not_changes rfl c⟩
      · obtain ⟨hpast, hcalls, hcluster⟩ := ih _ (hp.2 _) (hobeys.2 _) ⟨x, hx, hlookup⟩
        obtain ⟨hq, hpast⟩ := List.forall_mem_cons.mp hpast
        refine ⟨hpast, List.forall_mem_cons.mpr ⟨hq, hcalls⟩, ?_⟩
        exact hcluster.trans (Made.effect_of_not_changes hq c)

theorem changed_nothing {t : Try}
    (h : ∃ x ∈ (t.run inNamespace name c).1, x.IsFailedClaimLookup) :
    (∀ x ∈ (t.run inNamespace name c).1, x.question.changes = false) ∧
      (t.run inNamespace name c).2 = c :=
  (unchanged_stopAfter (stopsAtFailure_recover _ _ _) (looksFirst_recover _ _ _) h).2

/-! ## Attempts add up -/

/-- An interrupted clean start that is made again, and interrupted again, is one that was
interrupted once. -/
theorem Cluster.PartlyCleaned.trans (h : PartlyCleaned c pod c')
    (hpod : c'.pods.get? (pod.metadata.namespaceOrEmpty, pod.metadata.nameOrEmpty) = some pod)
    (h' : PartlyCleaned c' pod c'') : PartlyCleaned c pod c'' := by
  have hloses := h.loses
  cases h with
  | @detaching volumes hsub =>
    have hall {more : List String} (hmore : ∀ v ∈ more, v ∈ (c.detached volumes).volumesOf pod) :
        (c.detached volumes).detached more = c.detached (volumes ++ more) :=
      c.detached_detached fun v => List.mem_append
    cases h' with
    | @detaching more hmore =>
      rw [hall hmore]
      refine .detaching fun v hv => ?_
      exact (List.mem_append.mp hv).elim (hsub v) (hmore v)
    | @deleting names hnames =>
      have hdetached : (c.detached volumes).detached (c.volumesOf pod) =
          c.detached (c.volumesOf pod) :=
        c.detached_detached fun v => ⟨Or.inr, fun hv => hv.elim (hsub v) id⟩
      show PartlyCleaned c pod (((c.detached volumes).detached (c.volumesOf pod)).withoutClaims _ _)
      rw [hdetached]
      exact .deleting hnames
    | finished =>
      rw [cleaned_detached hsub]
      exact .finished
  | @deleting names hnames =>
    have hdetached {more : List String} (hmore : ∀ v ∈ more, v ∈ c.volumesOf pod) :
        ((c.detached (c.volumesOf pod)).withoutClaims pod.metadata.namespaceOrEmpty names).detached
          more = (c.detached (c.volumesOf pod)).withoutClaims pod.metadata.namespaceOrEmpty names := by
      have hall : (c.detached (c.volumesOf pod)).detached more = c.detached (c.volumesOf pod) :=
        c.detached_detached fun v => ⟨Or.inl, fun hv => hv.elim id (hmore v)⟩
      show ((c.detached (c.volumesOf pod)).detached more).withoutClaims _ _ = _
      rw [hall]
    cases h' with
    | detaching hmore =>
      rw [hdetached fun v hv => hloses.volumesOf_subset (hmore v hv)]
      exact .deleting hnames
    | @deleting more hmore =>
      rw [hdetached fun v hv => hloses.volumesOf_subset hv,
        withoutClaims_withoutClaims _ _ fun n => List.mem_append (s := names) (t := more)]
      refine .deleting fun n hn => ?_
      exact (List.mem_append.mp hn).elim (hnames n) (hmore n)
    | finished =>
      rw [cleaned_withoutClaims hnames]
      exact .finished
  | finished =>
    rw [get?_cleaned_self] at hpod
    cases hpod

theorem partlyCleaned_run (hc : c.WellKept) (hpod : c.pods.get? (inNamespace, name) = some pod)
    (h : PartlyCleaned c pod c') (t : Try) : PartlyCleaned c pod (t.run inNamespace name c').2 := by
  have hpasses := passes_stopAfter (stopsAtFailure_recover t.evictionLabel inNamespace name)
    t.schedule c'
  rcases passes_recover (h.wellKept hc) hpasses with hsame | ⟨pod', hpod', -, hpartly⟩
  · unfold Try.run
    rw [hsame]
    exact h
  · obtain rfl : pod' = pod := Option.some.inj ((h.loses.pods _ _ hpod').symm.trans hpod)
    obtain ⟨rfl, rfl⟩ := hc.pods _ _ pod' hpod
    exact h.trans hpod' hpartly

/-- Whatever the attempts, they leave an interrupted clean start of the pod. -/
theorem partlyCleaned_drive (hc : c.WellKept) (hpod : c.pods.get? (inNamespace, name) = some pod)
    (h : PartlyCleaned c pod c') (tries : List Try) :
    PartlyCleaned c pod (drive inNamespace name tries c').2 := by
  induction tries generalizing c' with
  | nil => exact h
  | cons t tries ih => exact ih (partlyCleaned_run hc hpod h t)

/-- No claim is gone before the volume that it names is free. -/
theorem Cluster.PartlyCleaned.freed_of_gone (h : PartlyCleaned c pod c') {claim : String}
    {k : Claim} (hmounted : claim ∈ pod.mountedClaims)
    (hk : c.claims.get? (pod.metadata.namespaceOrEmpty, claim) = some k)
    (hvolume : k.volume? = some volume)
    (hgone : c'.claims.get? (pod.metadata.namespaceOrEmpty, claim) = none) {v : Volume}
    (hv : c'.volumes.get? volume = some v) : v.claimRef? = none := by
  have hmem : volume ∈ c.volumesOf pod :=
    mem_volumesOf.mpr ⟨k, mem_claimsOf.mpr ⟨claim, hmounted, hk⟩, hvolume⟩
  have hfreed (hv : (c.detached (c.volumesOf pod)).volumes.get? volume = some v) :
      v.claimRef? = none := by
    rw [get?_detached, if_pos hmem] at hv
    obtain ⟨u, -, rfl⟩ := Option.map_eq_some_iff.mp hv
    exact claimRef?_freed u
  cases h with
  | detaching => exact absurd (hk.symm.trans hgone) (Option.some_ne_none k)
  | deleting => exact hfreed hv
  | finished => exact hfreed hv

/-- The pod is not gone before all claims that it mounts are. -/
theorem Cluster.PartlyCleaned.claims_of_gone (h : PartlyCleaned c pod c')
    (hpod : c.pods.get? (pod.metadata.namespaceOrEmpty, pod.metadata.nameOrEmpty) = some pod)
    (hgone : c'.pods.get? (pod.metadata.namespaceOrEmpty, pod.metadata.nameOrEmpty) = none) :
    ∀ claim ∈ pod.mountedClaims,
      c'.claims.get? (pod.metadata.namespaceOrEmpty, claim) = none := by
  cases h with
  | detaching => exact absurd (hpod.symm.trans hgone) (Option.some_ne_none pod)
  | deleting => exact absurd (hpod.symm.trans hgone) (Option.some_ne_none pod)
  | finished => exact (startedOver_cleaned c pod).claimsGone

/-! ## Replacements of a volume -/

/-- The number of claims on the volume: one, or none. -/
def claimed (c : Cluster) (volume : String) : Nat :=
  if ((c.volumes.get? volume).bind Volume.claimRef?).isSome then 1 else 0

theorem claimed_le_one (c : Cluster) (volume : String) : claimed c volume ≤ 1 := by
  unfold claimed
  split <;> omega

theorem claimed_of_volumes_eq (h : c'.volumes.get? volume = c.volumes.get? volume) :
    claimed c' volume = claimed c volume := by
  unfold claimed
  rw [h]

theorem claimed_detached (c : Cluster) (volumes : List String) (volume : String) :
    claimed (c.detached volumes) volume = if volume ∈ volumes then 0 else claimed c volume := by
  split
  · rename_i h
    unfold claimed
    rw [get?_detached, if_pos h]
    cases c.volumes.get? volume with
    | none => rfl
    | some v => exact if_neg (by rw [Option.map_some, Option.bind_some, claimRef?_freed]; decide)
  · rename_i h
    exact claimed_of_volumes_eq (by rw [get?_detached, if_neg h])

/-- A volume is replaced only right after it was looked up and had a claim, by itself without it. -/
def FreesRead (q : Question) (past : List (Exchange Answer)) : Prop :=
  ∀ v, q = .replaceVolume v → ∃ volume read earlier,
    past = ⟨.getVolume volume, .ok (some read)⟩ :: earlier ∧
    read.claimRef?.isSome = true ∧ v = read.unclaimed

theorem freesRead_recover (evictionLabel : Option String) (inNamespace name : String) :
    Obeys FreesRead [] (recover evictionLabel inNamespace name) := by
  refine (obeys_recover evictionLabel inNamespace name).mono fun q past h v hv => ?_
  obtain ⟨pod, -, hfrees⟩ := h v hv
  obtain ⟨volume, read, earlier, hpast, hclaimed, hfreed, -⟩ := hfrees v hv
  exact ⟨volume, read, earlier, hpast, hclaimed, hfreed⟩

/-- A volume that was looked up in the very last call is still what was found. -/
def UpToDate (c : Cluster) (past : List (Exchange Answer)) : Prop :=
  ∀ volume read earlier, past = ⟨.getVolume volume, .ok (some read)⟩ :: earlier →
    c.volumes.get? volume = some read

theorem Cluster.WellKept.answer (hc : c.WellKept) (q : Question) : (c.answer q).2.WellKept := by
  cases q with
  | replaceVolume v =>
    show (c.replaceVolume v).2.WellKept
    unfold replaceVolume
    split
    · exact hc
    · split
      · refine ⟨hc.pods, hc.claims, fun n u hu => ?_⟩
        by_cases hn : v.name = n
        · subst hn
          rw [Table.get?_insert_self] at hu
          cases hu
          rfl
        · rw [Table.get?_insert_of_ne _ _ hn] at hu
          exact hc.volumes n u hu
      · exact hc
  | deleteClaim ns n => exact ⟨hc.pods, fun ns' n' k hk => hc.claims ns' n' k
      ((loses_withoutClaims c ns [n]).claims _ k (c.withoutClaims_singleton ns n ▸ hk)), hc.volumes⟩
  | deletePod ns n => exact ⟨fun ns' n' p hp => hc.pods ns' n' p
      ((loses_withoutPod c ns n).pods _ p hp), hc.claims, hc.volumes⟩
  | _ => exact hc

theorem Made.wellKept (hc : c.WellKept) (x : Made) : (x.effect c).WellKept := by
  unfold effect
  split
  · exact hc.answer x.question
  · exact hc

theorem wellKept_stopAfter (hc : c.WellKept) (schedule : List (Option Failure))
    (p : Procedure α) : (stopAfter schedule p c).2.WellKept := by
  induction p generalizing schedule c with
  | done a =>
    rw [stopAfter_done]
    exact hc
  | ask q next ih =>
    cases schedule with
    | nil => exact hc
    | cons failure schedule => exact ih _ (Made.wellKept hc ⟨q, failure⟩) schedule

/-- What is looked up is what is stored. -/
theorem Made.upToDate (x : Made) (c : Cluster) (past : List (Exchange Answer)) :
    UpToDate (x.effect c) (⟨x.question, x.answer c⟩ :: past) := by
  intro volume read earlier h
  obtain ⟨q, failure⟩ := x
  obtain ⟨hq, -⟩ := List.cons.inj h
  obtain rfl : q = .getVolume volume := congrArg Sigma.fst hq
  have hanswer : Made.answer ⟨.getVolume volume, failure⟩ c = .ok (some read) :=
    eq_of_heq (Sigma.mk.inj hq).2
  rw [Made.effect_of_not_changes rfl]
  cases failure with
  | none => exact Except.ok.inj hanswer
  | some failure => cases hanswer

/-- A replacement of a volume finds a claim on it and takes that off; no other call does, and none
puts one on. -/
theorem Made.claimed_effect (hc : c.WellKept) {past : List (Exchange Answer)}
    (hpast : UpToDate c past) {x : Made} (hfrees : FreesRead x.question past) (volume : String) :
    (x.rewrites volume = true → claimed c volume = 1) ∧
      claimed (x.effect c) volume = if x.replaced volume then 0 else claimed c volume := by
  obtain ⟨q, failure⟩ := x
  cases q with
  | replaceVolume v =>
    obtain ⟨stored, read, earlier, hread, hclaimed, rfl⟩ := hfrees v rfl
    have hstored : c.volumes.get? stored = some read := hpast _ _ _ hread
    have hname : read.unclaimed.name = stored := hc.volumes stored read hstored
    have hrewrites : Made.rewrites volume ⟨.replaceVolume read.unclaimed, failure⟩ =
        decide (stored = volume) := congrArg (fun n => decide (n = volume)) hname
    have heffect : (c.answer (.replaceVolume read.unclaimed)).2 = c.detached [stored] :=
      congrArg Prod.snd (answer_replaceVolume hc hstored hclaimed)
    unfold Made.replaced Made.effect
    rw [hrewrites, heffect]
    refine ⟨fun h => ?_, ?_⟩
    · rw [← of_decide_eq_true h]
      unfold claimed
      rw [hstored]
      exact if_pos hclaimed
    · cases hmade : Made.tookEffect ⟨.replaceVolume read.unclaimed, failure⟩ with
      | false => simp
      | true =>
        rw [if_pos rfl, claimed_detached]
        simp [eq_comm]
  | _ =>
    refine ⟨fun h => (Bool.false_ne_true h).elim,
      (claimed_of_volumes_eq ?_).trans (if_neg Bool.false_ne_true).symm⟩
    unfold Made.effect
    split <;> rfl

/-- The replacements of a volume use up the claims on it. -/
theorem replacements_stopAfter {p : Procedure α} {past : List (Exchange Answer)}
    (hobeys : Obeys FreesRead past p) (hc : c.WellKept) (hpast : UpToDate c past)
    (schedule : List (Option Failure)) (volume : String) :
    (claimed c volume = 0 → ∀ x ∈ (stopAfter schedule p c).1, x.rewrites volume = false) ∧
      (stopAfter schedule p c).1.countP (·.replaced volume) +
        claimed (stopAfter schedule p c).2 volume ≤ claimed c volume := by
  induction p generalizing past schedule c with
  | done a =>
    rw [stopAfter_done]
    exact ⟨fun _ x hx => (nomatch hx), Nat.le_of_eq (Nat.zero_add _)⟩
  | ask q next ih =>
    cases schedule with
    | nil => exact ⟨fun _ x hx => (nomatch hx), Nat.le_of_eq (Nat.zero_add _)⟩
    | cons failure schedule =>
      obtain ⟨hone, heffect⟩ := Made.claimed_effect (x := ⟨q, failure⟩) hc hpast hobeys.1 volume
      obtain ⟨hnone, hcount⟩ := ih _ (hobeys.2 _) (Made.wellKept hc ⟨q, failure⟩)
        (Made.upToDate ⟨q, failure⟩ c past) schedule
      rw [stopAfter_ask, List.countP_cons]
      dsimp only
      refine ⟨fun hfree => List.forall_mem_cons.mpr ⟨Bool.eq_false_iff.mpr fun h => ?_, hnone ?_⟩, ?_⟩
      · rw [hone h] at hfree
        cases hfree
      · rw [heffect, hfree]
        split <;> rfl
      · cases hreplaced : Made.replaced volume ⟨q, failure⟩ with
        | false =>
          rw [hreplaced, if_neg Bool.false_ne_true] at heffect
          rw [if_neg Bool.false_ne_true]
          omega
        | true =>
          rw [hreplaced, if_pos rfl] at heffect
          rw [if_pos rfl, hone (Bool.and_eq_true_iff.mp hreplaced).1]
          omega

theorem replacements_drive (hc : c.WellKept) (tries : List Try) (volume : String) :
    (claimed c volume = 0 →
        ∀ x ∈ (drive inNamespace name tries c).1, x.rewrites volume = false) ∧
      (drive inNamespace name tries c).1.countP (·.replaced volume) +
        claimed (drive inNamespace name tries c).2 volume ≤ claimed c volume := by
  induction tries generalizing c with
  | nil => exact ⟨fun _ x hx => (nomatch hx), Nat.le_of_eq (Nat.zero_add _)⟩
  | cons t tries ih =>
    obtain ⟨hnone, hcount⟩ := replacements_stopAfter (freesRead_recover t.evictionLabel inNamespace
      name) hc (fun _ _ _ h => nomatch h) t.schedule volume
    obtain ⟨hnone', hcount'⟩ := ih (wellKept_stopAfter hc t.schedule
      (recover t.evictionLabel inNamespace name))
    refine ⟨fun hfree x hx => ?_, ?_⟩
    · rcases List.mem_append.mp hx with hx | hx
      · exact hnone hfree x hx
      · exact hnone' (by omega) x hx
    · show ((stopAfter _ _ _).1 ++ (drive inNamespace name tries (stopAfter _ _ _).2).1).countP _ +
        claimed (drive inNamespace name tries (stopAfter _ _ _).2).2 _ ≤ _
      rw [List.countP_append]
      omega

theorem wellKept_drive (hc : c.WellKept) (tries : List Try) :
    (drive inNamespace name tries c).2.WellKept := by
  induction tries generalizing c with
  | nil => exact hc
  | cons t tries ih => exact ih (wellKept_stopAfter hc t.schedule _)

/-! ## Wherever the attempts stop -/

/--
**Nothing is orphaned.** Attempts at a recovery may stop after any call and fail in any call, with or
without effect. Wherever they have come to:

- an attempt that cannot look a claim up changes nothing;
- a claim of the pod is only gone if the volume that it named is free, or gone too;
- the pod is only gone if none of the claims that it mounts is left;
- a volume without a claim is never replaced again, and no volume was replaced twice.
-/
theorem nothing_is_orphaned (inNamespace name : String) (c : Cluster) (hc : c.WellKept)
    (tries : List Try) {calls : List Made} {c' : Cluster}
    (hdrive : drive inNamespace name tries c = (calls, c')) :
    (∀ t : Try, (∃ x ∈ (t.run inNamespace name c').1, x.IsFailedClaimLookup) →
      (∀ x ∈ (t.run inNamespace name c').1, x.question.changes = false) ∧
        (t.run inNamespace name c').2 = c') ∧
    (∀ pod, c.pods.get? (inNamespace, name) = some pod →
      (∀ claim ∈ pod.mountedClaims, ∀ k volume,
        c.claims.get? (inNamespace, claim) = some k → k.volume? = some volume →
        c'.claims.get? (inNamespace, claim) = none →
        ∀ v, c'.volumes.get? volume = some v → v.claimRef? = none) ∧
      (c'.pods.get? (inNamespace, name) = none →
        ∀ claim ∈ pod.mountedClaims, c'.claims.get? (inNamespace, claim) = none)) ∧
    ∀ volume,
      (∀ v, c'.volumes.get? volume = some v → v.claimRef? = none → ∀ more : List Try,
        ∀ x ∈ (drive inNamespace name more c').1, x.rewrites volume = false) ∧
      calls.countP (·.replaced volume) ≤ 1 := by
  obtain ⟨rfl, rfl⟩ : (drive inNamespace name tries c).1 = calls ∧
      (drive inNamespace name tries c).2 = c' := by
    rw [hdrive]
    exact ⟨rfl, rfl⟩
  refine ⟨fun t h => changed_nothing h, fun pod hpod => ?_, fun volume => ⟨?_, ?_⟩⟩
  · have hpartly := partlyCleaned_drive hc hpod (.start c pod) tries
    obtain ⟨rfl, rfl⟩ := hc.pods _ _ pod hpod
    exact ⟨fun claim hmounted k volume hk hvolume hgone v hv =>
      hpartly.freed_of_gone hmounted hk hvolume hgone hv, hpartly.claims_of_gone hpod⟩
  · intro v hv hfree more
    refine (replacements_drive (wellKept_drive hc tries) more volume).1 ?_
    unfold claimed
    rw [hv, Option.bind_some, hfree]
    rfl
  · have hcount : (drive inNamespace name tries c).1.countP (·.replaced volume) +
        claimed (drive inNamespace name tries c).2 volume ≤ claimed c volume :=
      (replacements_drive hc tries volume).2
    have hone := claimed_le_one c volume
    omega

/-- The volume is replaced, though it seems that it is not; then the claim is deleted, and the
recovery is killed. -/
def crashes : List Try :=
  [⟨none, [none, none, none, none, some ⟨.message "timed out", true⟩]⟩,
    ⟨none, [none, none, none, none, none]⟩]

theorem nothing_is_orphaned_rebound :
    rebound.WellKept ∧
      (drive "ring" "node-0" crashes rebound).2.claims.get? ("ring", "data-0") = none ∧
      (∀ v, (drive "ring" "node-0" crashes rebound).2.volumes.get? "disk-1" = some v →
        v.claimRef? = none) ∧
      (drive "ring" "node-0" crashes rebound).1.countP (·.replaced "disk-1") ≤ 1 := by
  obtain ⟨-, hgone, honce⟩ :=
    nothing_is_orphaned "ring" "node-0" rebound rebound_wellKept crashes rfl
  have hdeleted : (drive "ring" "node-0" crashes rebound).2.claims.get? ("ring", "data-0") = none :=
    rfl
  refine ⟨rebound_wellKept, hdeleted, ?_, (honce "disk-1").2⟩
  exact (hgone waitingPod rfl).1 "data-0" (List.mem_singleton.mpr rfl) _ "disk-1" rfl rfl hdeleted

end RingKeeper.Recovery
