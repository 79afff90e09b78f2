import RingKeeper.Proofs.Recovery.Interruption
import RingKeeper.Proofs.Table

/-!
# A recovery without failures

What the recovery does to a cluster in which each object is kept under its own name and no call
fails, in terms of the cluster alone.

1. `Cluster.verdict` is the verdict on a pod, and `run_diagnose` says that it is the diagnosis.
2. `Cluster.cleaned` is the cluster after a clean start of a pod, and `run_recover` says that this is
   what a recovery leaves behind, if the pod needs one.
3. `passes_recover` lists the clusters that a recovery passes through on its way there.
-/

namespace RingKeeper

namespace Recovery

/-! ## The verdict -/

namespace Cluster

/-- What is wrong with the volume of a claim. -/
def volumeFlaw? (c : Cluster) (volume : String) : Option Verdict :=
  match c.volumes.get? volume with
  | none => some (.volumeMissing volume)
  | some v =>
    match v.requiredHost? with
    | none => none
    | some host => if (c.hosts.get? host).isSome then none else some (.hostGone host)

/-- What is wrong with a claim. -/
def claimFlaw? (c : Cluster) (inNamespace claim : String) : Option Verdict :=
  match c.claims.get? (inNamespace, claim) with
  | none => some (.claimMissing claim)
  | some k =>
    match k.phase.getD "" with
    | "Bound" => k.volume?.bind c.volumeFlaw?
    | "Pending" => none
    | _ => some (.claimLost claim)

/-- The verdict on a pod. -/
def verdict (c : Cluster) (pod : Pod) (evictionLabel : Option String) : Verdict :=
  if isEvicted pod evictionLabel then .evicted
  else if pod.isUnschedulable then
    (pod.mountedClaims.findSome? (c.claimFlaw? pod.metadata.namespaceOrEmpty)).getD .healthy
  else .healthy

theorem run_volumeDefect? (c : Cluster) (volume : String) :
    c.run (volumeDefect? volume) = (.ok (c.volumeFlaw? volume), c) := by
  unfold volumeDefect? volumeFlaw?
  rw [run_bind, run_request]
  dsimp only [answer]
  cases c.volumes.get? volume with
  | none => rfl
  | some v =>
    dsimp only
    cases v.requiredHost? with
    | none => rfl
    | some host =>
      dsimp only
      rw [run_bind, run_request]
      dsimp only [answer]
      cases (c.hosts.get? host).isSome <;> rfl

theorem run_claimDefect? (c : Cluster) (inNamespace claim : String) :
    c.run (claimDefect? inNamespace claim) = (.ok (c.claimFlaw? inNamespace claim), c) := by
  unfold claimDefect? claimFlaw?
  rw [run_bind, run_request]
  dsimp only [answer]
  cases c.claims.get? (inNamespace, claim) with
  | none => rfl
  | some k =>
    dsimp only
    by_cases hbound : k.phase.getD "" = "Bound"
    · rw [hbound]
      cases k.volume? with
      | none => rfl
      | some volume => exact run_volumeDefect? c volume
    · by_cases hpending : k.phase.getD "" = "Pending"
      · rw [hpending]
        rfl
      · simp only
        rfl

theorem run_firstDefect (c : Cluster) (inNamespace : String) (claims : List String) :
    c.run (firstDefect inNamespace claims) =
      (.ok ((claims.findSome? (c.claimFlaw? inNamespace)).getD .healthy), c) := by
  induction claims with
  | nil => rfl
  | cons claim claims ih =>
    unfold firstDefect
    rw [run_bind, run_claimDefect?, List.findSome?_cons]
    cases c.claimFlaw? inNamespace claim with
    | none => exact ih
    | some verdict => rfl

/-- The diagnosis is the verdict. -/
theorem run_diagnose (c : Cluster) (pod : Pod) (evictionLabel : Option String) :
    c.run (diagnose pod evictionLabel) = (.ok (c.verdict pod evictionLabel), c) := by
  unfold diagnose verdict
  split
  · rfl
  · split
    · exact run_firstDefect c _ _
    · rfl

theorem volumeFlaw?_ne_healthy (c : Cluster) (volume : String) :
    c.volumeFlaw? volume ≠ some .healthy := by
  unfold volumeFlaw?
  split
  · simp
  · split
    · simp
    · split <;> simp

theorem claimFlaw?_ne_healthy (c : Cluster) (inNamespace claim : String) :
    c.claimFlaw? inNamespace claim ≠ some .healthy := by
  unfold claimFlaw?
  split
  · simp
  · split
    · cases hv : Claim.volume? _ with
      | none => simp
      | some volume => exact c.volumeFlaw?_ne_healthy volume
    · simp
    · simp

/-- A pod needs recovery if it is marked for eviction, or if it cannot be scheduled and there is
something wrong with one of its claims. -/
theorem needsRecovery_verdict {c : Cluster} {pod : Pod} {evictionLabel : Option String} :
    (c.verdict pod evictionLabel).needsRecovery = true ↔
      isEvicted pod evictionLabel = true ∨ pod.isUnschedulable = true ∧
        ∃ claim ∈ pod.mountedClaims, c.claimFlaw? pod.metadata.namespaceOrEmpty claim ≠ none := by
  unfold verdict
  split
  · rename_i hevicted
    exact ⟨fun _ => Or.inl hevicted, fun _ => rfl⟩
  · rename_i hevicted
    split
    · rename_i hpending
      cases hfirst : pod.mountedClaims.findSome? (c.claimFlaw? pod.metadata.namespaceOrEmpty) with
      | none =>
        refine ⟨fun h => (nomatch h), ?_⟩
        rintro (h | ⟨-, claim, hmem, hflaw⟩)
        · exact absurd h hevicted
        · exact absurd (List.findSome?_eq_none_iff.mp hfirst claim hmem) hflaw
      | some verdict =>
        obtain ⟨claim, hmem, hflaw⟩ := List.exists_of_findSome?_eq_some hfirst
        refine ⟨fun _ => Or.inr ⟨hpending, claim, hmem, by rw [hflaw]; exact Option.some_ne_none _⟩,
          fun _ => ?_⟩
        refine decide_eq_true fun hhealthy => ?_
        rw [Option.getD_some] at hhealthy
        exact c.claimFlaw?_ne_healthy _ claim (hflaw.trans (congrArg some hhealthy))
    · rename_i hpending
      refine ⟨fun h => (nomatch h), ?_⟩
      rintro (h | ⟨h, -⟩)
      · exact absurd h hevicted
      · exact absurd h hpending

end Cluster

/-! ## Changes of the cluster -/

open Cluster (inNextVersion)

/-- The volume after it was detached: without its claim in the next version, if it had one. -/
def freed (v : Volume) : Volume :=
  if v.claimRef?.isSome then inNextVersion v.unclaimed else v

theorem claimRef?_freed (v : Volume) : (freed v).claimRef? = none := by
  unfold freed
  split
  · exact v.claimRef?_unclaimed
  · rename_i h
    exact Option.not_isSome_iff_eq_none.mp h

theorem freed_freed (v : Volume) : freed (freed v) = freed v := by
  rw [freed, if_neg]
  rw [claimRef?_freed]
  exact Bool.false_ne_true

theorem name_freed (v : Volume) : (freed v).name = v.name := by
  unfold freed
  split <;> rfl

/-- A volume stays pinned when it is detached. -/
theorem requiredHost?_freed (v : Volume) : (freed v).requiredHost? = v.requiredHost? := by
  unfold freed
  split
  · unfold Volume.requiredHost? inNextVersion Volume.unclaimed
    cases v.spec <;> rfl
  · rfl

namespace Cluster

/-- Each object is kept under its own name. -/
structure WellKept (c : Cluster) : Prop where
  pods : ∀ inNamespace name pod, c.pods.get? (inNamespace, name) = some pod →
    pod.metadata.namespaceOrEmpty = inNamespace ∧ pod.metadata.nameOrEmpty = name
  claims : ∀ inNamespace name claim, c.claims.get? (inNamespace, name) = some claim →
    claim.metadata.nameOrEmpty = name
  volumes : ∀ name v, c.volumes.get? name = some v → v.name = name

/-- The volumes of these names are detached. -/
def detached (c : Cluster) (volumes : List String) : Cluster :=
  { c with volumes := c.volumes.adjust freed fun name => decide (name ∈ volumes) }

/-- The claims of these names are gone. -/
def withoutClaims (c : Cluster) (inNamespace : String) (names : List String) : Cluster :=
  { c with claims :=
    ⟨c.claims.entries.filter fun e => !decide (e.1.1 = inNamespace ∧ e.1.2 ∈ names)⟩ }

def withoutPod (c : Cluster) (inNamespace name : String) : Cluster :=
  { c with pods := c.pods.erase (inNamespace, name) }

/-- The claims of the pod that exist. -/
def claimsOf (c : Cluster) (pod : Pod) : List Claim :=
  pod.mountedClaims.filterMap fun name => c.claims.get? (pod.metadata.namespaceOrEmpty, name)

/-- The names of the volumes that the claims of the pod name. -/
def volumesOf (c : Cluster) (pod : Pod) : List String := (c.claimsOf pod).filterMap Claim.volume?

/-- The cluster after a clean start of the pod. -/
def cleaned (c : Cluster) (pod : Pod) : Cluster :=
  ((c.detached (c.volumesOf pod)).withoutClaims pod.metadata.namespaceOrEmpty
    pod.mountedClaims).withoutPod pod.metadata.namespaceOrEmpty pod.metadata.nameOrEmpty

variable {c : Cluster}

theorem get?_detached (c : Cluster) (volumes : List String) (name : String) :
    (c.detached volumes).volumes.get? name =
      if name ∈ volumes then (c.volumes.get? name).map freed else c.volumes.get? name := by
  show (c.volumes.adjust freed _).get? name = _
  rw [Table.get?_adjust]
  by_cases h : name ∈ volumes <;> simp [h]

theorem detached_nil (c : Cluster) : c.detached [] = c := by
  unfold detached
  rw [Table.adjust_eq_self]
  intro name v hpick
  simp at hpick

theorem detached_detached (c : Cluster) {volumes more all : List String}
    (hall : ∀ name, name ∈ all ↔ name ∈ volumes ∨ name ∈ more) :
    (c.detached volumes).detached more = c.detached all := by
  unfold detached
  dsimp only
  rw [Table.adjust_adjust freed_freed]
  congr 2
  funext name
  simp [hall]

theorem get?_withoutClaims (c : Cluster) (inNamespace : String) (names : List String)
    (key : String × String) :
    (c.withoutClaims inNamespace names).claims.get? key =
      if key.1 = inNamespace ∧ key.2 ∈ names then none else c.claims.get? key := by
  unfold withoutClaims Table.get?
  dsimp only
  rw [List.find?_filter]
  split
  · rename_i h
    rw [List.find?_eq_none.mpr, Option.map_none]
    intro e _ he
    simp only [decide_eq_true_eq] at he
    rw [he.2] at he
    simp [h] at he
  · rename_i h
    congr 2
    funext e
    by_cases he : e.1 = key
    · simp [he, h]
    · simp [he]

theorem withoutClaims_withoutClaims (c : Cluster) (inNamespace : String)
    {names more all : List String} (hall : ∀ name, name ∈ all ↔ name ∈ names ∨ name ∈ more) :
    (c.withoutClaims inNamespace names).withoutClaims inNamespace more =
      c.withoutClaims inNamespace all := by
  unfold withoutClaims
  dsimp only
  rw [List.filter_filter]
  congr 3
  funext e
  by_cases he : e.1.1 = inNamespace <;> simp [he, hall, Bool.and_comm]

theorem withoutClaims_nil (c : Cluster) (inNamespace : String) :
    c.withoutClaims inNamespace [] = c := by
  unfold withoutClaims
  rw [List.filter_eq_self.mpr fun e _ => by simp]

/-- Deleting the claims that exist deletes them all. -/
theorem withoutClaims_of_missing {inNamespace : String} {names more : List String}
    (hsub : ∀ name ∈ names, name ∈ more)
    (hmore : ∀ name ∈ more, name ∉ names → c.claims.get? (inNamespace, name) = none) :
    c.withoutClaims inNamespace names = c.withoutClaims inNamespace more := by
  unfold withoutClaims
  congr 2
  refine List.filter_congr fun e he => ?_
  congr 1
  refine decide_eq_decide.mpr (and_congr_right fun hns => ⟨hsub _, fun hmem => ?_⟩)
  refine Decidable.byContradiction fun hnot => ?_
  have hnone := hmore e.1.2 hmem hnot
  unfold Table.get? at hnone
  rw [Option.map_eq_none_iff, List.find?_eq_none] at hnone
  exact hnone e he (decide_eq_true (by rw [← hns]))

end Cluster

/-! ## Steps for each item of a list -/

/--
Each step carries out its part of an effect that is made up item by item, on all clusters that are
good, and passes through nothing in between.
-/
structure Acts {β : Type} (step : β → Procedure (Attempt Unit))
    (effect : List β → Cluster → Cluster) (Good : Cluster → Prop) : Prop where
  nil : ∀ c, effect [] c = c
  cons : ∀ b bs c, effect bs (effect [b] c) = effect (b :: bs) c
  good : ∀ b c, Good c → Good (effect [b] c)
  run : ∀ b c, Good c → c.run (step b) = (.ok (), effect [b] c)
  passes : ∀ b c c', Good c → Passes (step b) c c' → c' = c ∨ c' = effect [b] c

section
variable {β : Type} {step : β → Procedure (Attempt Unit)} {effect : List β → Cluster → Cluster}
  {Good : Cluster → Prop}

theorem Acts.run_forAll (h : Acts step effect Good) (bs : List β) {c : Cluster} (hc : Good c) :
    c.run (forAll step bs) = (.ok (), effect bs c) := by
  induction bs generalizing c with
  | nil =>
    rw [h.nil]
    rfl
  | cons b bs ih =>
    unfold forAll
    rw [Cluster.run_bind, h.run b c hc, ← h.cons b bs c]
    exact ih (h.good b c hc)

/-- On its way the effect has been carried out for some of the items. -/
theorem Acts.passes_forAll (h : Acts step effect Good) {bs : List β} {c c' : Cluster} (hc : Good c)
    (hp : Passes (forAll step bs) c c') : ∃ part, (∀ b ∈ part, b ∈ bs) ∧ c' = effect part c := by
  induction bs generalizing c with
  | nil => exact ⟨[], fun _ hb => hb, hp.trans (h.nil c).symm⟩
  | cons b bs ih =>
    unfold forAll at hp
    rcases passes_bind hp with hp | hp
    · rcases h.passes b c c' hc hp with rfl | rfl
      · exact ⟨[], fun _ hb => (nomatch hb), (h.nil c').symm⟩
      · exact ⟨[b], fun _ hb => List.mem_singleton.mp hb ▸ List.mem_cons_self, rfl⟩
    · rw [h.run b c hc] at hp
      obtain ⟨part, hsub, rfl⟩ := ih (h.good b c hc) hp
      refine ⟨b :: part, fun x hx => ?_, h.cons b part c⟩
      rcases List.mem_cons.mp hx with rfl | hx
      · exact List.mem_cons_self
      · exact List.mem_cons_of_mem _ (hsub x hx)

end

namespace Cluster

variable {c c' : Cluster}

theorem WellKept.detached (hc : c.WellKept) (volumes : List String) :
    (c.detached volumes).WellKept := by
  refine ⟨hc.pods, hc.claims, fun name v hv => ?_⟩
  rw [get?_detached] at hv
  split at hv
  · obtain ⟨u, hu, rfl⟩ := Option.map_eq_some_iff.mp hv
    exact (name_freed u).trans (hc.volumes name u hu)
  · exact hc.volumes name v hv

theorem answer_replaceVolume (hc : c.WellKept) {volume : String} {v : Volume}
    (hv : c.volumes.get? volume = some v) (hclaimed : v.claimRef?.isSome = true) :
    c.answer (.replaceVolume v.unclaimed) = (.ok (), c.detached [volume]) := by
  have hname : v.unclaimed.name = volume := hc.volumes volume v hv
  have hfreed : inNextVersion v.unclaimed = freed v := (if_pos hclaimed).symm
  show c.replaceVolume v.unclaimed = _
  unfold replaceVolume
  rw [hname, hv]
  dsimp only
  rw [if_pos (by rw [Volume.metadata_unclaimed]), hfreed, Table.insert_eq_adjust hv]
  unfold Cluster.detached
  simp

theorem detached_of_freed_eq {volume : String}
    (h : ∀ v, c.volumes.get? volume = some v → freed v = v) : c.detached [volume] = c := by
  unfold Cluster.detached
  rw [Table.adjust_eq_self]
  intro name v hpick hv
  obtain rfl := List.mem_singleton.mp (of_decide_eq_true hpick)
  exact h v hv

theorem freed_eq_self {v : Volume} (h : ¬ v.claimRef?.isSome = true) : freed v = v := if_neg h

theorem acts_detach : Acts detach (fun volumes c => c.detached volumes) WellKept where
  nil := detached_nil
  cons volume volumes c := c.detached_detached fun name => by simp
  good volume c hc := hc.detached [volume]
  run volume c hc := by
    unfold detach
    rw [run_bind, run_request]
    dsimp only [answer]
    cases hv : c.volumes.get? volume with
    | none =>
      rw [detached_of_freed_eq fun v h => by rw [hv] at h; cases h]
      rfl
    | some v =>
      dsimp only
      split
      · rename_i hclaimed
        exact answer_replaceVolume hc hv hclaimed
      · rename_i hclaimed
        rw [detached_of_freed_eq fun u hu => by
          rw [hv] at hu
          cases hu
          exact freed_eq_self hclaimed]
        rfl
  passes volume c c' hc hp := by
    rcases hp with h | hp
    · exact Or.inl h
    · cases hv : c.volumes.get? volume with
      | none =>
        dsimp only [answer] at hp
        rw [hv] at hp
        exact Or.inl hp
      | some v =>
        dsimp only [answer] at hp
        rw [hv] at hp
        change Passes (if v.claimRef?.isSome then ask (.replaceVolume v.unclaimed) else _) c c' at hp
        split at hp
        · rename_i hclaimed
          refine hp.imp_right fun hp => ?_
          rw [answer_replaceVolume hc hv hclaimed] at hp
          exact hp
        · exact Or.inl hp

theorem withoutClaims_singleton (c : Cluster) (inNamespace name : String) :
    { c with claims := c.claims.erase (inNamespace, name) } =
      c.withoutClaims inNamespace [name] := by
  unfold withoutClaims Table.erase
  congr 3
  funext e
  by_cases h : e.1 = (inNamespace, name)
  · simp [h]
  · have hne : ¬ (e.1.1 = inNamespace ∧ e.1.2 = name) := fun hk => h (Prod.ext hk.1 hk.2)
    simp [h, hne]

theorem acts_deleteClaim (inNamespace : String) :
    Acts (fun claim => ask (.deleteClaim inNamespace claim.metadata.nameOrEmpty))
      (fun claims c => c.withoutClaims inNamespace
        (claims.map fun claim : Claim => claim.metadata.nameOrEmpty)) (fun _ => True) where
  nil c := c.withoutClaims_nil inNamespace
  cons claim claims c := c.withoutClaims_withoutClaims inNamespace fun name => by simp
  good _ _ _ := trivial
  run claim c _ := congrArg (Prod.mk _) (c.withoutClaims_singleton inNamespace _)
  passes claim c c' _ hp :=
    hp.imp_right fun hp => Eq.trans hp (c.withoutClaims_singleton inNamespace _)

/-! ## The recovery -/

theorem run_findClaims (c : Cluster) (inNamespace : String) (names : List String) :
    c.run (findClaims inNamespace names) =
      (.ok (names.filterMap fun name => c.claims.get? (inNamespace, name)), c) := by
  induction names with
  | nil => rfl
  | cons name names ih =>
    unfold findClaims
    rw [run_bind, run_request, List.filterMap_cons]
    dsimp only [answer]
    rw [run_bind, ih]
    cases c.claims.get? (inNamespace, name) <;> rfl

theorem mem_claimsOf {pod : Pod} {claim : Claim} :
    claim ∈ c.claimsOf pod ↔ ∃ name ∈ pod.mountedClaims,
      c.claims.get? (pod.metadata.namespaceOrEmpty, name) = some claim := List.mem_filterMap

theorem mem_volumesOf {pod : Pod} {volume : String} :
    volume ∈ c.volumesOf pod ↔ ∃ claim ∈ c.claimsOf pod, claim.volume? = some volume :=
  List.mem_filterMap

/-- The claims that are deleted are all that the pod mounts. -/
theorem withoutClaims_claimsOf (hc : c.WellKept) (pod : Pod) (volumes : List String) :
    (c.detached volumes).withoutClaims pod.metadata.namespaceOrEmpty
        ((c.claimsOf pod).map fun claim => claim.metadata.nameOrEmpty) =
      (c.detached volumes).withoutClaims pod.metadata.namespaceOrEmpty pod.mountedClaims := by
  refine withoutClaims_of_missing (fun name hname => ?_) fun name hmounted hnot => ?_
  · obtain ⟨claim, hclaim, rfl⟩ := List.mem_map.mp hname
    obtain ⟨name, hmounted, hget⟩ := mem_claimsOf.mp hclaim
    rwa [hc.claims _ name claim hget]
  · cases hget : (c.detached volumes).claims.get? (pod.metadata.namespaceOrEmpty, name) with
    | none => rfl
    | some claim =>
      refine absurd (List.mem_map.mpr ⟨claim, mem_claimsOf.mpr ⟨name, hmounted, hget⟩, ?_⟩) hnot
      exact hc.claims _ name claim hget

/-- A clean start cleans the cluster. -/
theorem run_startOver (hc : c.WellKept) (pod : Pod) :
    c.run (startOver pod) = (.ok (), c.cleaned pod) := by
  unfold startOver
  rw [run_bind, run_findClaims]
  dsimp only
  rw [run_bind, acts_detach.run_forAll _ hc]
  dsimp only
  rw [run_bind, (acts_deleteClaim _).run_forAll _ trivial]
  show ((c.detached (c.volumesOf pod)).withoutClaims _ ((c.claimsOf pod).map _)).run _ = _
  rw [withoutClaims_claimsOf hc]
  rfl

/-- What a clean start of the pod passes through: some of its volumes are detached; or all are, and
some of its claims are gone; or the cluster is clean. -/
inductive PartlyCleaned (c : Cluster) (pod : Pod) : Cluster → Prop where
  | detaching {volumes : List String} (h : ∀ volume ∈ volumes, volume ∈ c.volumesOf pod) :
    PartlyCleaned c pod (c.detached volumes)
  | deleting {names : List String} (h : ∀ name ∈ names, name ∈ pod.mountedClaims) :
    PartlyCleaned c pod
      ((c.detached (c.volumesOf pod)).withoutClaims pod.metadata.namespaceOrEmpty names)
  | finished : PartlyCleaned c pod (c.cleaned pod)

theorem PartlyCleaned.start (c : Cluster) (pod : Pod) : PartlyCleaned c pod c := by
  have h : PartlyCleaned c pod (c.detached []) := .detaching fun _ h => (nomatch h)
  rwa [detached_nil] at h

theorem passes_startOver (hc : c.WellKept) {pod : Pod} (h : Passes (startOver pod) c c') :
    PartlyCleaned c pod c' := by
  unfold startOver at h
  rcases passes_bind h with h | h
  · rw [(looksUp_findClaims _ _).onlyLooksUp.passes h]
    exact .start c pod
  rw [run_findClaims] at h
  rcases passes_bind h with h | h
  · obtain ⟨volumes, hsub, rfl⟩ := acts_detach.passes_forAll hc h
    exact .detaching hsub
  rw [acts_detach.run_forAll _ hc] at h
  rcases passes_bind h with h | h
  · obtain ⟨claims, hsub, rfl⟩ := (acts_deleteClaim _).passes_forAll trivial h
    refine .deleting fun name hname => ?_
    obtain ⟨claim, hclaim, rfl⟩ := List.mem_map.mp hname
    obtain ⟨name, hmounted, hget⟩ := mem_claimsOf.mp (hsub claim hclaim)
    rwa [hc.claims _ name claim hget]
  rw [(acts_deleteClaim _).run_forAll _ trivial] at h
  change Passes (ask _) ((c.detached (c.volumesOf pod)).withoutClaims _
    ((c.claimsOf pod).map _)) c' at h
  rw [withoutClaims_claimsOf hc] at h
  rcases h with rfl | rfl
  · exact .deleting fun _ h => h
  · exact .finished

/-- **A recovery without failures** cleans up after a pod that needs it, and does nothing else. -/
theorem run_recover (hc : c.WellKept) (evictionLabel : Option String) (inNamespace name : String) :
    c.run (recover evictionLabel inNamespace name) =
      match c.pods.get? (inNamespace, name) with
      | none => (.ok .healthy, c)
      | some pod =>
        (.ok (c.verdict pod evictionLabel),
          if (c.verdict pod evictionLabel).needsRecovery then c.cleaned pod else c) := by
  unfold recover
  rw [run_bind, run_request]
  dsimp only [answer]
  cases c.pods.get? (inNamespace, name) with
  | none => rfl
  | some pod =>
    dsimp only
    rw [run_bind, run_diagnose]
    dsimp only
    split
    · rw [run_bind, run_startOver hc]
      rfl
    · rfl

/-- What a recovery passes through. -/
theorem passes_recover (hc : c.WellKept) {evictionLabel : Option String}
    {inNamespace name : String} (h : Passes (recover evictionLabel inNamespace name) c c') :
    c' = c ∨ ∃ pod, c.pods.get? (inNamespace, name) = some pod ∧
      (c.verdict pod evictionLabel).needsRecovery = true ∧ PartlyCleaned c pod c' := by
  unfold recover at h
  rcases passes_bind h with h | h
  · exact Or.inl (h.elim id id)
  rw [run_request] at h
  dsimp only [answer] at h
  cases hpod : c.pods.get? (inNamespace, name) with
  | none =>
    rw [hpod] at h
    exact Or.inl h
  | some pod =>
    rw [hpod] at h
    rcases passes_bind h with h | h
    · exact Or.inl ((looksUp_diagnose pod evictionLabel).onlyLooksUp.passes h)
    rw [run_diagnose] at h
    dsimp only at h
    split at h
    · rename_i hneeds
      refine Or.inr ⟨pod, rfl, hneeds, ?_⟩
      rcases passes_bind h with h | h
      · exact passes_startOver hc h
      · rw [run_startOver hc] at h
        obtain rfl : c' = c.cleaned pod := h
        exact .finished
    · exact Or.inl h

end Cluster

end Recovery

end RingKeeper
