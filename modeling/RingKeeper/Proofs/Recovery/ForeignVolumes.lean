import RingKeeper.Proofs.Plan
import RingKeeper.Proofs.Recovery.CleanStart

/-!
# Volumes that a clean start takes

A clean start goes by the volumes that the pod's claims name, and not by the claims that these
volumes name. The two need not agree: a claim may name a volume that belongs to another claim by
now.

1. `FreesNamed` is the rule for the replacements of a clean start: the volume was looked up just
   before, was claimed, and is named by a claim that the pod mounts. `obeys_startOver` and
   `obeys_recover` say that it is obeyed, whatever the cluster answers.
2. `detaches_named_volumes` adds what becomes of the volumes of a cluster: those that are named are
   freed, and no others.
3. `detaches_foreign_volume` is a cluster in which a volume is taken away from a claim that the pod
   does not mount.
-/

namespace RingKeeper.Recovery

open Plan (Exchange Notes Obeys OnlyAsks Runs)

variable {inNamespace : String} {pod : Pod} {past past' : List (Exchange Answer)}

/-! ## The rule -/

/-- A claim that the pod mounts was looked up, and names the volume. -/
def NamesVolume (pod : Pod) (volume : String) (past : List (Exchange Answer)) : Prop :=
  ∃ name ∈ pod.mountedClaims, ∃ claim : Claim, claim.volume? = some volume ∧
    ⟨.getClaim pod.metadata.namespaceOrEmpty name, .ok (some claim)⟩ ∈ past

/--
A volume is replaced only by itself without its claim, right after it was looked up and had one, and
only if a claim that the pod mounts names it.
-/
def FreesNamed (pod : Pod) (q : Question) (past : List (Exchange Answer)) : Prop :=
  ∀ v, q = .replaceVolume v → ∃ volume read earlier,
    past = ⟨.getVolume volume, .ok (some read)⟩ :: earlier ∧
    read.claimRef?.isSome = true ∧ v = read.unclaimed ∧ NamesVolume pod volume earlier

theorem freesNamed_of_ne {q : Question} (h : ∀ v, q ≠ .replaceVolume v) : FreesNamed pod q past :=
  fun v hv => absurd hv (h v)

theorem OnlyLooksUp.onlyAsks {α : Type} {p : Procedure α} (hp : OnlyLooksUp p) :
    OnlyAsks (fun q => q.changes = false) p := by
  induction p with
  | done a => trivial
  | ask q next ih => exact ⟨hp.1, fun x => ih x (hp.2 x)⟩

theorem obeys_of_onlyLooksUp {α : Type} {p : Procedure α} (hp : OnlyLooksUp p) :
    Obeys (FreesNamed pod) past p := by
  refine hp.onlyAsks.obeys (fun q past hlooks => freesNamed_of_ne fun v hv => ?_) past
  rw [hv] at hlooks
  cases hlooks

/-! ## The clean start -/

/-- The claims that are found are among those that were looked up. -/
theorem runs_findClaims {names : List String} {claims : List Claim}
    (h : Runs Notes (findClaims inNamespace names) past (.ok claims) past') :
    ∀ claim ∈ claims, ∃ name ∈ names, ⟨.getClaim inNamespace name, .ok (some claim)⟩ ∈ past' := by
  induction names generalizing past claims with
  | nil =>
    obtain ⟨hclaims, -⟩ := Plan.runs_done.mp h
    cases hclaims
    exact fun claim hclaim => nomatch hclaim
  | cons name names ih =>
    unfold findClaims at h
    obtain ⟨x, past₁, hask, h⟩ := Plan.runs_bind.mp h
    obtain rfl : past₁ = ⟨.getClaim inNamespace name, x⟩ :: past := Plan.runs_request.mp hask
    cases x with
    | error f => cases (Plan.runs_done.mp h).1
    | ok found =>
      obtain ⟨y, past₂, hrest, h⟩ := Plan.runs_bind.mp h
      cases y with
      | error f => cases (Plan.runs_done.mp h).1
      | ok more =>
        obtain ⟨hclaims, rfl⟩ := Plan.runs_done.mp h
        cases hclaims
        intro claim hclaim
        rcases List.mem_append.mp hclaim with hfound | hmore
        · obtain rfl : found = some claim := Option.mem_toList.mp hfound
          exact ⟨name, List.mem_cons_self, hrest.suffix.mem List.mem_cons_self⟩
        · obtain ⟨name', hname, hmem⟩ := ih hrest claim hmore
          exact ⟨name', List.mem_cons_of_mem _ hname, hmem⟩

theorem obeys_detach {volume : String} (h : NamesVolume pod volume past) :
    Obeys (FreesNamed pod) past (detach volume) := by
  refine ⟨freesNamed_of_ne fun v hv => (nomatch hv), fun x => ?_⟩
  cases x with
  | error f => trivial
  | ok found =>
    cases found with
    | none => trivial
    | some read =>
      show Obeys (FreesNamed pod) _
        (if read.claimRef?.isSome then ask (.replaceVolume read.unclaimed) else _)
      split
      · rename_i hclaimed
        refine ⟨fun v hv => ?_, fun x => trivial⟩
        cases hv
        exact ⟨volume, read, past, rfl, hclaimed, rfl, h⟩
      · trivial

theorem obeys_forAll {β : Type} {rule : Question → List (Exchange Answer) → Prop}
    {step : β → Procedure (Attempt Unit)} {bs : List β}
    (h : ∀ b ∈ bs, ∀ past', past <:+ past' → Obeys rule past' (step b)) :
    Obeys rule past (forAll step bs) := by
  induction bs generalizing past with
  | nil => trivial
  | cons b bs ih =>
    refine (h b List.mem_cons_self past (List.suffix_refl past)).bind fun x past' hrun => ?_
    cases x with
    | error f => trivial
    | ok u =>
      refine ih fun b' hb' past'' hpast => ?_
      exact h b' (List.mem_cons_of_mem _ hb') past'' (hrun.suffix.trans hpast)

theorem obeys_startOver (pod : Pod) (past : List (Exchange Answer)) :
    Obeys (FreesNamed pod) past (startOver pod) := by
  unfold startOver
  refine (obeys_of_onlyLooksUp (looksUp_findClaims _ _).onlyLooksUp).bind fun x past₁ hfind => ?_
  cases x with
  | error f => trivial
  | ok claims =>
    have hdetach : Obeys (FreesNamed pod) past₁
        (forAll detach (claims.filterMap Claim.volume?)) := by
      refine obeys_forAll fun volume hvolume past' hpast => obeys_detach ?_
      obtain ⟨claim, hclaim, hnames⟩ := List.mem_filterMap.mp hvolume
      obtain ⟨name, hmounted, hmem⟩ := runs_findClaims hfind claim hclaim
      exact ⟨name, hmounted, claim, hnames, hpast.mem hmem⟩
    refine hdetach.bind fun x past₂ _ => ?_
    cases x with
    | error f => trivial
    | ok u =>
      refine (obeys_forAll fun claim _ past' _ => ?_).bind fun x past₃ _ => ?_
      · exact Plan.obeys_request (freesNamed_of_ne fun v hv => nomatch hv)
      · cases x with
        | error f => trivial
        | ok u => exact Plan.obeys_request (freesNamed_of_ne fun v hv => nomatch hv)

/-- A recovery obeys the rule for the pod that it has looked up. -/
theorem obeys_recover (evictionLabel : Option String) (inNamespace name : String) :
    Obeys (fun q past => ∀ v, q = .replaceVolume v → ∃ pod,
        ⟨.getPod inNamespace name, .ok (some pod)⟩ ∈ past ∧ FreesNamed pod q past)
      [] (recover evictionLabel inNamespace name) := by
  refine ⟨fun v hv => (nomatch hv), fun x => ?_⟩
  cases x with
  | error f => trivial
  | ok found =>
    cases found with
    | none => trivial
    | some pod =>
      refine (Obeys.after ?_).mono fun q past h v hv =>
        ⟨pod, h.1.mem List.mem_cons_self, (h.2 : FreesNamed pod q past)⟩
      have hdiagnose := (looksUp_diagnose pod evictionLabel).onlyLooksUp
      refine (obeys_of_onlyLooksUp hdiagnose).bind fun x past _ => ?_
      cases x with
      | error f => trivial
      | ok verdict =>
        show Obeys (FreesNamed pod) past (if verdict.needsRecovery then _ else _)
        split
        · refine (obeys_startOver pod past).bind fun x past' _ => ?_
          cases x <;> trivial
        · trivial

/-! ## The volumes of a cluster -/

open Cluster

variable {c c' : Cluster}

theorem Cluster.PartlyCleaned.volumes_of_notMem (h : PartlyCleaned c pod c') {volume : String}
    (hvolume : volume ∉ c.volumesOf pod) : c'.volumes.get? volume = c.volumes.get? volume := by
  have hkept {volumes : List String} (hsub : ∀ v ∈ volumes, v ∈ c.volumesOf pod) :
      (c.detached volumes).volumes.get? volume = c.volumes.get? volume := by
    rw [get?_detached, if_neg fun hmem => hvolume (hsub volume hmem)]
  cases h with
  | detaching hsub => exact hkept hsub
  | deleting => exact hkept fun _ hv => hv
  | finished => exact hkept fun _ hv => hv

/-- A clean start leaves the volumes alone that are not named, also when it is interrupted. -/
theorem volumes_startOver (hc : c.WellKept) (schedule : List (Option Failure)) {volume : String}
    (hvolume : volume ∉ c.volumesOf pod) :
    ((Faulty.mk c schedule).run (startOver pod)).2.cluster.volumes.get? volume =
      c.volumes.get? volume := by
  rcases Faulty.run_interrupted (stopsAtFailure_startOver pod) ⟨c, schedule⟩ with
    ⟨-, hcluster⟩ | ⟨-, -, hpasses⟩
  · rw [hcluster, run_startOver hc]
    exact (PartlyCleaned.finished).volumes_of_notMem hvolume
  · exact (passes_startOver hc hpasses).volumes_of_notMem hvolume

/--
**A clean start takes the volumes that the pod's claims name.** Whatever the cluster answers, each
volume that a clean start or a recovery replaces was looked up just before and was claimed, by
whatever claim, is written back without that claim and otherwise unchanged, and is named by a claim
that the pod mounts. In a cluster without failures all volumes that are named lose their claims;
those that are not keep theirs, whatever calls fail.
-/
theorem detaches_named_volumes (evictionLabel : Option String) (inNamespace name : String)
    (pod : Pod) (c : Cluster) (hc : c.WellKept) :
    Obeys (FreesNamed pod) [] (startOver pod) ∧
    Obeys (fun q past => ∀ v, q = .replaceVolume v → ∃ pod,
        ⟨.getPod inNamespace name, .ok (some pod)⟩ ∈ past ∧ FreesNamed pod q past)
      [] (recover evictionLabel inNamespace name) ∧
    (∀ volume ∈ c.volumesOf pod,
      (c.run (startOver pod)).2.volumes.get? volume = (c.volumes.get? volume).map freed) ∧
    ∀ volume, volume ∉ c.volumesOf pod → ∀ schedule : List (Option Failure),
      ((Faulty.mk c schedule).run (startOver pod)).2.cluster.volumes.get? volume =
        c.volumes.get? volume := by
  refine ⟨obeys_startOver pod [], obeys_recover evictionLabel inNamespace name,
    fun volume hvolume => ?_, fun volume hvolume schedule => volumes_startOver hc schedule hvolume⟩
  rw [run_startOver hc]
  show (c.detached (c.volumesOf pod)).volumes.get? volume = _
  rw [get?_detached, if_pos hvolume]

/-! ## A volume that is claimed by another -/

/-- The reference names a claim that the pod mounts. -/
def IsClaimOf (pod : Pod) (ref : ObjectReference) : Prop :=
  ref.inNamespace = some pod.metadata.namespaceOrEmpty ∧
    ∃ claim ∈ pod.mountedClaims, ref.name = some claim

def waitingPod : Pod where
  metadata := { name := some "node-0", inNamespace := some "ring" }
  volumes := [.claim "data-0"]
  conditions := [⟨"PodScheduled", "False", some "Unschedulable"⟩]

def reboundVolume : Volume where
  metadata := { name := some "disk-1", resourceVersion := some "7" }
  spec := some { claimRef := some { name := some "data-1", inNamespace := some "ring" } }

/-- The claim of the pod has lost its volume, which is bound to the claim of another pod since. -/
def rebound : Cluster where
  pods := ⟨[(("ring", "node-0"), waitingPod)]⟩
  claims := ⟨[
    (("ring", "data-0"),
      { metadata := { name := some "data-0", inNamespace := some "ring" }
        volumeName := some "disk-1", phase := some "Lost" }),
    (("ring", "data-1"),
      { metadata := { name := some "data-1", inNamespace := some "ring" }
        volumeName := some "disk-1", phase := some "Bound" })]⟩
  volumes := ⟨[("disk-1", reboundVolume)]⟩

theorem rebound_wellKept : rebound.WellKept := by
  refine ⟨fun ns n pod h => ?_, fun ns n claim h => ?_, fun n v h => ?_⟩
  · obtain ⟨hkey, rfl⟩ := Table.eq_of_get?_singleton h
    cases hkey
    exact ⟨rfl, rfl⟩
  · unfold rebound at h
    rw [Table.get?_cons] at h
    split at h
    · cases h
      rename_i hkey
      cases hkey
      rfl
    · obtain ⟨hkey, rfl⟩ := Table.eq_of_get?_singleton h
      cases hkey
      rfl
  · obtain ⟨rfl, rfl⟩ := Table.eq_of_get?_singleton h
    rfl

theorem detaches_named_volumes_rebound :
    rebound.WellKept ∧ "disk-1" ∈ rebound.volumesOf waitingPod ∧
      (rebound.run (startOver waitingPod)).2.volumes.get? "disk-1" =
        some (freed reboundVolume) := by
  have hnamed : "disk-1" ∈ rebound.volumesOf waitingPod := by decide
  obtain ⟨-, -, hfreed, -⟩ :=
    detaches_named_volumes none "ring" "node-0" waitingPod rebound rebound_wellKept
  exact ⟨rebound_wellKept, hnamed, hfreed "disk-1" hnamed⟩

/-- The volume belongs to a claim that the pod does not mount, and is taken away from it. -/
theorem detaches_foreign_volume :
    rebound.WellKept ∧ rebound.pods.get? ("ring", "node-0") = some waitingPod ∧
      rebound.volumes.get? "disk-1" = some reboundVolume ∧
      (∃ ref, reboundVolume.claimRef? = some ref ∧ ¬ IsClaimOf waitingPod ref) ∧
      (∃ v, (rebound.run (startOver waitingPod)).2.volumes.get? "disk-1" = some v ∧
        v.claimRef? = none) ∧
      ∃ v, (rebound.run (recover none "ring" "node-0")).2.volumes.get? "disk-1" = some v ∧
        v.claimRef? = none := by
  refine ⟨rebound_wellKept, rfl, rfl, ⟨_, rfl, ?_⟩, ?_, ?_⟩
  · rintro ⟨-, claim, hclaim, hname⟩
    obtain rfl := List.mem_singleton.mp hclaim
    exact absurd hname (by decide)
  · exact ⟨freed reboundVolume, rfl, claimRef?_freed _⟩
  · exact ⟨freed reboundVolume, rfl, claimRef?_freed _⟩

end RingKeeper.Recovery
