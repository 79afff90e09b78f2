import RingKeeper.Proofs.Recovery.CleanStart

/-!
# Recoveries that are driven to their end

1. `Loses` says that a cluster has lost objects and claims on volumes, but nothing else that the
   diagnosis looks at. Such a loss heals nothing (`Loses.needsRecovery`).
2. `interrupted_recovery` says of every cluster that a recovery passes through that a recovery from
   there ends like the first one would have.
3. `Failed` are the attempts that fail before one succeeds. `recover_converges` says that one does in
   the end, and then leaves what a recovery without failures would have left.
-/

namespace RingKeeper.Recovery

open Cluster

variable {c c' c'' : Cluster} {evictionLabel : Option String} {inNamespace name : String}
  {pod : Pod}

/-! ## Losses -/

/-- Objects may be gone and volumes unclaimed, but everything that is left is as it was. -/
structure Loses (c c' : Cluster) : Prop where
  pods : ∀ key pod, c'.pods.get? key = some pod → c.pods.get? key = some pod
  claims : ∀ key claim, c'.claims.get? key = some claim → c.claims.get? key = some claim
  pinned : ∀ volume, (c'.volumes.get? volume).map Volume.requiredHost? =
    (c.volumes.get? volume).map Volume.requiredHost?
  hosts : c'.hosts = c.hosts

theorem Loses.refl (c : Cluster) : Loses c c :=
  ⟨fun _ _ h => h, fun _ _ h => h, fun _ => rfl, rfl⟩

theorem Loses.trans (h : Loses c c') (h' : Loses c' c'') : Loses c c'' where
  pods key pod hpod := h.pods key pod (h'.pods key pod hpod)
  claims key claim hclaim := h.claims key claim (h'.claims key claim hclaim)
  pinned volume := (h'.pinned volume).trans (h.pinned volume)
  hosts := h'.hosts.trans h.hosts

theorem Loses.volumeFlaw?_eq (h : Loses c c') (volume : String) :
    c'.volumeFlaw? volume = c.volumeFlaw? volume := by
  have hpinned := h.pinned volume
  unfold volumeFlaw?
  cases hv : c.volumes.get? volume with
  | none =>
    rw [hv] at hpinned
    rw [Option.map_eq_none_iff.mp hpinned]
  | some v =>
    rw [hv] at hpinned
    obtain ⟨v', hv', hhost⟩ := Option.map_eq_some_iff.mp hpinned
    rw [hv']
    dsimp only
    rw [hhost, h.hosts]

/-- A claim that something is wrong with does not get well by a loss. -/
theorem Loses.claimFlaw?_ne_none (h : Loses c c') {claim : String}
    (hflaw : c.claimFlaw? inNamespace claim ≠ none) : c'.claimFlaw? inNamespace claim ≠ none := by
  unfold claimFlaw? at hflaw ⊢
  cases hclaim : c'.claims.get? (inNamespace, claim) with
  | none => exact Option.some_ne_none _
  | some k =>
    rw [h.claims _ k hclaim] at hflaw
    rw [show c'.volumeFlaw? = c.volumeFlaw? from funext h.volumeFlaw?_eq]
    exact hflaw

theorem Loses.needsRecovery (h : Loses c c')
    (hneeds : (c.verdict pod evictionLabel).needsRecovery = true) :
    (c'.verdict pod evictionLabel).needsRecovery = true := by
  rw [needsRecovery_verdict] at hneeds ⊢
  refine hneeds.imp_right fun ⟨hpending, claim, hmem, hflaw⟩ => ⟨hpending, claim, hmem, ?_⟩
  exact h.claimFlaw?_ne_none hflaw

/-! ## What is left of an interrupted clean start -/

theorem loses_detached (c : Cluster) (volumes : List String) : Loses c (c.detached volumes) where
  pods _ _ h := h
  claims _ _ h := h
  pinned volume := by
    rw [get?_detached]
    split
    · rw [Option.map_map]
      exact congrFun (congrArg Option.map (funext requiredHost?_freed)) _
    · rfl
  hosts := rfl

theorem loses_withoutClaims (c : Cluster) (inNamespace : String) (names : List String) :
    Loses c (c.withoutClaims inNamespace names) where
  pods _ _ h := h
  claims key claim h := by
    rw [get?_withoutClaims] at h
    split at h
    · cases h
    · exact h
  pinned _ := rfl
  hosts := rfl

theorem get?_withoutPod (c : Cluster) (inNamespace name : String) (key : String × String) :
    (c.withoutPod inNamespace name).pods.get? key =
      if key = (inNamespace, name) then none else c.pods.get? key := by
  split
  · rename_i h
    rw [h]
    exact Table.get?_erase_self _ _
  · rename_i h
    exact Table.get?_erase_of_ne _ fun hkey => h hkey.symm

theorem loses_withoutPod (c : Cluster) (inNamespace name : String) :
    Loses c (c.withoutPod inNamespace name) where
  pods key pod h := by
    rw [get?_withoutPod] at h
    split at h
    · cases h
    · exact h
  claims _ _ h := h
  pinned _ := rfl
  hosts := rfl

theorem loses_cleaned (c : Cluster) (pod : Pod) : Loses c (c.cleaned pod) :=
  ((loses_detached c _).trans (loses_withoutClaims _ _ _)).trans (loses_withoutPod _ _ _)

theorem Cluster.PartlyCleaned.loses (h : PartlyCleaned c pod c') : Loses c c' := by
  cases h with
  | detaching => exact loses_detached c _
  | deleting => exact (loses_detached c _).trans (loses_withoutClaims _ _ _)
  | finished => exact loses_cleaned c pod

/-- Losses and detached volumes leave each object under its own name. -/
theorem Cluster.PartlyCleaned.wellKept (hc : c.WellKept) (h : PartlyCleaned c pod c') :
    c'.WellKept := by
  have hloses := h.loses
  refine ⟨fun ns n p hp => hc.pods ns n p (hloses.pods _ p hp),
    fun ns n k hk => hc.claims ns n k (hloses.claims _ k hk), ?_⟩
  cases h with
  | detaching => exact (hc.detached _).volumes
  | deleting => exact (hc.detached _).volumes
  | finished => exact (hc.detached _).volumes

theorem Loses.volumesOf_subset (h : Loses c c') {volume : String} (hv : volume ∈ c'.volumesOf pod) :
    volume ∈ c.volumesOf pod := by
  obtain ⟨claim, hclaim, hvolume⟩ := mem_volumesOf.mp hv
  obtain ⟨name, hmounted, hget⟩ := mem_claimsOf.mp hclaim
  exact mem_volumesOf.mpr ⟨claim, mem_claimsOf.mpr ⟨name, hmounted, h.claims _ claim hget⟩, hvolume⟩

theorem cleaned_detached {volumes : List String}
    (h : ∀ volume ∈ volumes, volume ∈ c.volumesOf pod) :
    (c.detached volumes).cleaned pod = c.cleaned pod := by
  have hall : (c.detached volumes).detached (c.volumesOf pod) = c.detached (c.volumesOf pod) :=
    c.detached_detached fun volume => ⟨Or.inr, fun hv => hv.elim (h volume) id⟩
  show (((c.detached volumes).detached (c.volumesOf pod)).withoutClaims _ _).withoutPod _ _ = _
  rw [hall]
  rfl

/-- No volume is forgotten: once a claim is gone, all volumes of the pod have been detached. -/
theorem cleaned_withoutClaims {names : List String}
    (h : ∀ name ∈ names, name ∈ pod.mountedClaims) :
    ((c.detached (c.volumesOf pod)).withoutClaims pod.metadata.namespaceOrEmpty names).cleaned pod =
      c.cleaned pod := by
  have hloses := (loses_detached c (c.volumesOf pod)).trans
    (loses_withoutClaims _ pod.metadata.namespaceOrEmpty names)
  generalize hleft : ((c.detached (c.volumesOf pod)).withoutClaims
    pod.metadata.namespaceOrEmpty names).volumesOf pod = left
  have hall : (c.detached (c.volumesOf pod)).detached left = c.detached (c.volumesOf pod) := by
    refine c.detached_detached fun volume => ⟨Or.inl, fun hv => hv.elim id fun hv => ?_⟩
    exact hloses.volumesOf_subset (hleft ▸ hv)
  unfold cleaned
  rw [hleft]
  show ((((c.detached (c.volumesOf pod)).detached left).withoutClaims _ names).withoutClaims _
    pod.mountedClaims).withoutPod _ _ = _
  rw [hall, withoutClaims_withoutClaims _ _ fun name => ⟨Or.inr, fun hn => hn.elim (h name) id⟩]

theorem get?_cleaned_self (c : Cluster) (pod : Pod) :
    (c.cleaned pod).pods.get? (pod.metadata.namespaceOrEmpty, pod.metadata.nameOrEmpty) = none := by
  unfold cleaned
  rw [get?_withoutPod, if_pos rfl]

/-! ## Interrupted recoveries -/

/-- A recovery that needs to clean up after a pod ends in the cleaned cluster. -/
theorem run_recover_of_needsRecovery (hc : c.WellKept)
    (hpod : c.pods.get? (inNamespace, name) = some pod)
    (hneeds : (c.verdict pod evictionLabel).needsRecovery = true) :
    (c.run (recover evictionLabel inNamespace name)).2 = c.cleaned pod := by
  rw [run_recover hc, hpod]
  exact if_pos hneeds

/--
**Resumption.** Wherever a recovery is interrupted, a recovery from there ends in the same cluster
as it would have; and until then there is only a loss.
-/
theorem interrupted_recovery (hc : c.WellKept)
    (h : Passes (recover evictionLabel inNamespace name) c c') :
    c'.WellKept ∧ Loses c c' ∧
      (c'.run (recover evictionLabel inNamespace name)).2 =
        (c.run (recover evictionLabel inNamespace name)).2 := by
  rcases passes_recover hc h with rfl | ⟨pod, hpod, hneeds, hpartly⟩
  · exact ⟨hc, Loses.refl c', rfl⟩
  refine ⟨hpartly.wellKept hc, hpartly.loses, ?_⟩
  have hc' := hpartly.wellKept hc
  have hneeds' := hpartly.loses.needsRecovery hneeds
  rw [run_recover_of_needsRecovery hc hpod hneeds]
  cases hpartly with
  | detaching hsub => rw [run_recover_of_needsRecovery hc' hpod hneeds', cleaned_detached hsub]
  | deleting hsub =>
    rw [run_recover_of_needsRecovery hc' hpod hneeds', cleaned_withoutClaims hsub]
  | finished =>
    obtain ⟨rfl, rfl⟩ := hc.pods _ _ pod hpod
    rw [run_recover hc', get?_cleaned_self]

/-! ## Driving a recovery -/

/-- Attempts at a recovery that failed, one after the other. -/
inductive Failed (evictionLabel : Option String) (inNamespace name : String) :
    Faulty → Faulty → Prop where
  | start (s : Faulty) : Failed evictionLabel inNamespace name s s
  | again {s s' s'' : Faulty} {f : Fault}
    (h : s.run (recover evictionLabel inNamespace name) = (.error f, s'))
    (hrest : Failed evictionLabel inNamespace name s' s'') :
    Failed evictionLabel inNamespace name s s''

section
variable {s s' t : Faulty} {v : Verdict} {f : Fault}

/-- An attempt that succeeds runs as if nothing ever failed. -/
theorem attempt_ok
    (h : s.run (recover evictionLabel inNamespace name) = (.ok v, t)) :
    t.cluster = (s.cluster.run (recover evictionLabel inNamespace name)).2 := by
  rcases Faulty.run_interrupted (stopsAtFailure_recover evictionLabel inNamespace name) s with
    ⟨-, hcluster⟩ | ⟨⟨f, hf⟩, -⟩
  · rwa [h] at hcluster
  · rw [h] at hf
    cases hf

/-- An attempt that fails meets a failure, somewhere on its way. -/
theorem attempt_error (hs : s.cluster.WellKept)
    (h : s.run (recover evictionLabel inNamespace name) = (.error f, t)) :
    t.failures < s.failures ∧
      Passes (recover evictionLabel inNamespace name) s.cluster t.cluster := by
  rcases Faulty.run_interrupted (stopsAtFailure_recover evictionLabel inNamespace name) s with
    ⟨hresult, -⟩ | ⟨-, hfewer, hpasses⟩
  · rw [h, run_recover hs] at hresult
    cases hpod : s.cluster.pods.get? (inNamespace, name) <;> rw [hpod] at hresult <;> cases hresult
  · rw [h] at hfewer hpasses
    exact ⟨hfewer, hpasses⟩

/-- The invariant of the attempts that fail. -/
theorem Failed.invariant (h : Failed evictionLabel inNamespace name s s')
    (hs : s.cluster.WellKept) :
    s'.cluster.WellKept ∧ Loses s.cluster s'.cluster ∧
      (s'.cluster.run (recover evictionLabel inNamespace name)).2 =
        (s.cluster.run (recover evictionLabel inNamespace name)).2 := by
  induction h with
  | start s => exact ⟨hs, Loses.refl _, rfl⟩
  | again hrun hrest ih =>
    obtain ⟨hs', hloses, hsame⟩ := interrupted_recovery hs (attempt_error hs hrun).2
    obtain ⟨hs'', hloses', hsame'⟩ := ih hs'
    exact ⟨hs'', hloses.trans hloses', hsame'.trans hsame⟩

/-- With each failed attempt there are fewer failures to come, so that one succeeds in the end. -/
theorem exists_success (evictionLabel : Option String) (inNamespace name : String)
    (hs : s.cluster.WellKept) :
    ∃ s' v t, Failed evictionLabel inNamespace name s s' ∧
      s'.run (recover evictionLabel inNamespace name) = (.ok v, t) := by
  induction hn : s.failures using Nat.strongRecOn generalizing s with
  | _ n ih =>
    subst hn
    cases hrun : s.run (recover evictionLabel inNamespace name) with
    | mk a t =>
      cases a with
      | ok v => exact ⟨s, v, t, .start s, hrun⟩
      | error f =>
        obtain ⟨hfewer, hpasses⟩ := attempt_error hs hrun
        obtain ⟨s', v, t', hfailed, hok⟩ := ih _ hfewer (interrupted_recovery hs hpasses).1 rfl
        exact ⟨s', v, t', .again hrun hfailed, hok⟩

end

/-! ## What is left in the end -/

/-- The cluster after a clean start of the pod, object by object. -/
structure StartedOver (c : Cluster) (inNamespace name : String) (pod : Pod) (c' : Cluster) :
    Prop where
  podGone : c'.pods.get? (inNamespace, name) = none
  otherPods : ∀ key, key ≠ (inNamespace, name) → c'.pods.get? key = c.pods.get? key
  claimsGone : ∀ claim ∈ pod.mountedClaims, c'.claims.get? (inNamespace, claim) = none
  otherClaims : ∀ key, (∀ claim ∈ pod.mountedClaims, key ≠ (inNamespace, claim)) →
    c'.claims.get? key = c.claims.get? key
  volumesFreed : ∀ volume, (∃ claim ∈ pod.mountedClaims, ∃ k,
    c.claims.get? (inNamespace, claim) = some k ∧ k.volume? = some volume) →
    c'.volumes.get? volume = (c.volumes.get? volume).map freed
  otherVolumes : ∀ volume, (∀ claim ∈ pod.mountedClaims, ∀ k,
    c.claims.get? (inNamespace, claim) = some k → k.volume? ≠ some volume) →
    c'.volumes.get? volume = c.volumes.get? volume
  hosts : c'.hosts = c.hosts

theorem startedOver_cleaned (c : Cluster) (pod : Pod) :
    StartedOver c pod.metadata.namespaceOrEmpty pod.metadata.nameOrEmpty pod (c.cleaned pod) where
  podGone := get?_cleaned_self c pod
  otherPods key hkey := by
    unfold cleaned
    rw [get?_withoutPod, if_neg hkey]
    rfl
  claimsGone claim hclaim := by
    show ((c.detached _).withoutClaims _ _).claims.get? _ = none
    rw [get?_withoutClaims, if_pos ⟨rfl, hclaim⟩]
  otherClaims key hkey := by
    show ((c.detached _).withoutClaims _ _).claims.get? _ = _
    rw [get?_withoutClaims, if_neg fun h => hkey key.2 h.2 (Prod.ext h.1 rfl)]
    rfl
  volumesFreed volume hvolume := by
    obtain ⟨claim, hmounted, k, hk, hvolume⟩ := hvolume
    have hmem : volume ∈ c.volumesOf pod :=
      mem_volumesOf.mpr ⟨k, mem_claimsOf.mpr ⟨claim, hmounted, hk⟩, hvolume⟩
    show (c.detached _).volumes.get? _ = _
    rw [get?_detached, if_pos hmem]
  otherVolumes volume hnone := by
    have hmem : volume ∉ c.volumesOf pod := by
      intro hmem
      obtain ⟨k, hclaim, hvolume⟩ := mem_volumesOf.mp hmem
      obtain ⟨claim, hmounted, hk⟩ := mem_claimsOf.mp hclaim
      exact hnone claim hmounted k hk hvolume
    show (c.detached _).volumes.get? _ = _
    rw [get?_detached, if_neg hmem]
  hosts := rfl

/--
**Convergence.** A recovery that is tried again after each failure ends, and whatever calls failed,
and whether they took effect or not, it leaves the cluster of a recovery in which none does: the
same as before where nothing was wrong, and a clean start of the pod where it needed one. Until the
pod is gone, each diagnosis finds that it still needs one.
-/
theorem recover_converges (evictionLabel : Option String) (inNamespace name : String) (c : Cluster)
    (hc : c.WellKept) (schedule : List (Option Failure)) :
    (∃ s v t, Failed evictionLabel inNamespace name ⟨c, schedule⟩ s ∧
      s.run (recover evictionLabel inNamespace name) = (.ok v, t)) ∧
    (∀ s v t, Failed evictionLabel inNamespace name ⟨c, schedule⟩ s →
      s.run (recover evictionLabel inNamespace name) = (.ok v, t) →
      t.cluster = (c.run (recover evictionLabel inNamespace name)).2) ∧
    ∃ verdict, (c.run (recover evictionLabel inNamespace name)).1 = .ok verdict ∧
      (verdict = .healthy → (c.run (recover evictionLabel inNamespace name)).2 = c) ∧
      (verdict ≠ .healthy → ∃ pod, c.pods.get? (inNamespace, name) = some pod ∧
        StartedOver c inNamespace name pod (c.run (recover evictionLabel inNamespace name)).2 ∧
        ∀ s pod', Failed evictionLabel inNamespace name ⟨c, schedule⟩ s →
          s.cluster.pods.get? (inNamespace, name) = some pod' →
          pod' = pod ∧ ∃ again, (s.cluster.run (diagnose pod' evictionLabel)).1 = .ok again ∧
            again.needsRecovery = true) := by
  refine ⟨exists_success evictionLabel inNamespace name hc, fun s v t hfailed hok => ?_, ?_⟩
  · obtain ⟨-, -, hsame⟩ := hfailed.invariant hc
    exact (attempt_ok hok).trans hsame
  rw [run_recover hc]
  cases hpod : c.pods.get? (inNamespace, name) with
  | none => exact ⟨_, rfl, fun _ => rfl, fun h => absurd rfl h⟩
  | some pod =>
    refine ⟨_, rfl, fun hhealthy => ?_, fun hill => ⟨pod, rfl, ?_, ?_⟩⟩
    · dsimp only
      rw [hhealthy]
      rfl
    · obtain ⟨rfl, rfl⟩ := hc.pods _ _ pod hpod
      have hneeds : (c.verdict pod evictionLabel).needsRecovery = true := decide_eq_true hill
      dsimp only
      rw [if_pos hneeds]
      exact startedOver_cleaned c pod
    · intro s pod' hfailed hpod'
      obtain ⟨-, hloses, -⟩ := hfailed.invariant hc
      obtain rfl : pod' = pod := Option.some.inj ((hloses.pods _ _ hpod').symm.trans hpod)
      refine ⟨rfl, _, congrArg Prod.fst (run_diagnose s.cluster pod' evictionLabel), ?_⟩
      exact hloses.needsRecovery (decide_eq_true hill)

/-- A pod that lost its node, with its only claim and the volume of that. -/
def stranded : Cluster where
  pods := ⟨[(("ring", "node-0"),
    { metadata := { name := some "node-0", inNamespace := some "ring" }
      volumes := [.claim "data-0"]
      conditions := [⟨"PodScheduled", "False", some "Unschedulable"⟩] })]⟩
  claims := ⟨[(("ring", "data-0"),
    { metadata := { name := some "data-0", inNamespace := some "ring" }
      volumeName := some "disk-0"
      phase := some "Lost" })]⟩
  volumes := ⟨[("disk-0",
    { metadata := { name := some "disk-0", resourceVersion := some "7" }
      spec := some { claimRef := some { name := some "data-0" } } })]⟩

/-- The volume is replaced, and the claim deleted, but both calls seem to fail. -/
def interruptions : List (Option Failure) :=
  let failure : Failure := ⟨.message "timed out", true⟩
  [none, none, none, none, some failure, none, none, none, none, some failure]

theorem recover_converges_stranded :
    ∃ s v t, Failed none "ring" "node-0" ⟨stranded, interruptions⟩ s ∧
      s.run (recover none "ring" "node-0") = (.ok v, t) ∧
      t.cluster = (stranded.run (recover none "ring" "node-0")).2 := by
  have hkept : stranded.WellKept := by
    refine ⟨fun ns n pod h => ?_, fun ns n claim h => ?_, fun n v h => ?_⟩
    · obtain ⟨hkey, rfl⟩ := Table.eq_of_get?_singleton h
      cases hkey
      exact ⟨rfl, rfl⟩
    · obtain ⟨hkey, rfl⟩ := Table.eq_of_get?_singleton h
      cases hkey
      rfl
    · obtain ⟨rfl, rfl⟩ := Table.eq_of_get?_singleton h
      rfl
  obtain ⟨⟨s, v, t, hfailed, hok⟩, hsame, -⟩ :=
    recover_converges none "ring" "node-0" stranded hkept interruptions
  exact ⟨s, v, t, hfailed, hok, hsame s v t hfailed hok⟩

end RingKeeper.Recovery
