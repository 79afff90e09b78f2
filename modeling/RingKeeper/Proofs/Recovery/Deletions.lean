import RingKeeper.Proofs.Recovery.Convergence
import RingKeeper.Proofs.Recovery.ForeignVolumes
import RingKeeper.Proofs.Recovery.Waning

/-!
# Deletions do not derail a recovery

A recovery is tried over and over while somebody else deletes pods, claims, volumes and nodes,
between any two of its calls.

1. `Tries` is one attempt, with what it found on its way, and `runs_recover_iff` says that each run
   of the recovery is one. `Tries.attempted` says what it does.
2. `Retried` are the attempts that failed so far, and `Withstood` is what they keep.
3. `deletions_cannot_derail` puts these together.
-/

namespace RingKeeper.Recovery

open Plan (Runs)

/-- An attempt at a recovery, begun in the first scene. In the second one it has found the pod, if
there is one, and judged it; in the last one it has come to its outcome. -/
structure Tries (evictionLabel : Option String) (inNamespace name : String) (s : Scene)
    (found : Option (Pod × Verdict)) (s₁ : Scene) (outcome : Attempt Verdict) (s' : Scene) :
    Prop where
  assessed : Runs Scene.Reacts (remote (assess evictionLabel inNamespace name)) s (.ok found) s₁
  treated : Runs Scene.Reacts (remote (treat inNamespace name found)) s₁ outcome s'

/-- The attempts so far have all failed. What they found is listed, latest first. -/
inductive Retried (evictionLabel : Option String) (inNamespace name : String) (s : Scene) :
    List (Option (Pod × Verdict)) → Scene → Prop where
  | start : Retried evictionLabel inNamespace name s [] s
  | again {founds : List (Option (Pod × Verdict))} {found : Option (Pod × Verdict)}
    {s₁ s₂ s₃ : Scene} {f : Fault} (h : Retried evictionLabel inNamespace name s founds s₁)
    (htry : Tries evictionLabel inNamespace name s₁ found s₂ (.error f) s₃) :
    Retried evictionLabel inNamespace name s (found :: founds) s₃

/-- Somebody has deleted a volume. -/
def Event.isVolumeRemoval : Event → Bool
  | .removed (.volume _) => true
  | _ => false

/-- The pod is gone with all claims that it mounts, and the volumes that were looked up on the way
have no claims, as far as they are still there. -/
structure CleanedUp (inNamespace name : String) (pod : Pod) (s s' : Scene) : Prop where
  podGone : s'.cluster.pods.get? (inNamespace, name) = none
  claimsGone : ∀ claim ∈ pod.mountedClaims, s'.cluster.claims.get? (inNamespace, claim) = none
  freed : ∃ since, s'.events = since ++ s.events ∧ ∀ volume v,
    .sent .get (.volume volume) ∈ since → s'.cluster.volumes.get? volume = some v →
      v.claimRef? = none

variable {evictionLabel : Option String} {inNamespace name : String} {s s₁ s' : Scene}
  {found : Option (Pod × Verdict)} {founds : List (Option (Pod × Verdict))}
  {outcome : Attempt Verdict}

/-! ## One attempt -/

theorem exists_recover (evictionLabel : Option String) (hnamespace : IsName inNamespace)
    (hname : IsName name) (hs : s.cluster.IsSound) :
    ∃ outcome s',
      Runs Scene.Reacts (remote (recover evictionLabel inNamespace name)) s outcome s' := by
  have hcomplies : Succeeds (fun _ => True) (recover evictionLabel inNamespace name) := by
    rw [recover_eq]
    exact (succeeds_assess hnamespace hname).andThen fun found hfound =>
      succeeds_treat hnamespace hname hfound
  exact Complies.exists_run hcomplies hs

theorem runs_recover_iff (hnamespace : IsName inNamespace) (hname : IsName name)
    (hs : s.cluster.IsSound) :
    Runs Scene.Reacts (remote (recover evictionLabel inNamespace name)) s outcome s' ↔
      ∃ found s₁, Tries evictionLabel inNamespace name s found s₁ outcome s' := by
  unfold remote
  rw [recover_eq, Plan.runs_perform, runs_andThen]
  constructor
  · rintro (⟨f, rfl, hfails⟩ | ⟨found, s₁, hassess, htreat⟩)
    · obtain ⟨hcalls, -, -⟩ :=
        (succeeds_assess hnamespace hname).calls hs (Plan.runs_perform.mpr hfails)
      obtain ⟨found, hfound, -⟩ := assess_ends hcalls
      cases hfound
    · exact ⟨found, s₁, Plan.runs_perform.mpr hassess, Plan.runs_perform.mpr htreat⟩
  · rintro ⟨found, s₁, hassess, htreat⟩
    exact Or.inr ⟨found, s₁, Plan.runs_perform.mp hassess, Plan.runs_perform.mp htreat⟩

/-- What an attempt does, while nothing but deletions comes in its way. -/
structure Attempted (evictionLabel : Option String) (inNamespace name : String) (s : Scene)
    (found : Option (Pod × Verdict)) (s₁ : Scene) (outcome : Attempt Verdict) (s' : Scene) :
    Prop where
  sound : s'.cluster.IsSound
  recorded : s.events <:+ s₁.events
  wanes : Wanes s.cluster s₁.cluster
  detected : ∀ pod verdict, found = some (pod, verdict) →
    s.cluster.pods.get? (inNamespace, name) = some pod ∧
      Detects (fun c => (c.verdict pod evictionLabel).needsRecovery = true) s
        (verdict ≠ .healthy) s₁
  ends : StageEnds (fun outcome c => ∀ pod verdict, found = some (pod, verdict) →
    outcome = verdict ∧ (verdict ≠ .healthy → c.pods.get? (inNamespace, name) = none ∧
      ∀ claim ∈ pod.mountedClaims, c.claims.get? (inNamespace, claim) = none)) s₁ outcome s'

theorem Tries.attempted (h : Tries evictionLabel inNamespace name s found s₁ outcome s')
    (hnamespace : IsName inNamespace) (hname : IsName name) (hs : s.cluster.IsSound) :
    Attempted evictionLabel inNamespace name s found s₁ outcome s' := by
  obtain ⟨hassess, hfound, hs₁⟩ := (succeeds_assess hnamespace hname).calls hs h.assessed
  obtain ⟨_, hsame, hwanes, hdetects⟩ := assess_ends hassess
  obtain rfl := Except.ok.inj hsame
  obtain ⟨htreat, -, hs'⟩ :=
    (succeeds_treat hnamespace hname (hfound found rfl)).calls hs₁ h.treated
  exact ⟨hs', events_suffix hassess, hwanes, hdetects, treat_ends (hfound found rfl) htreat⟩

/-! ## Attempts that fail -/

/-- What the attempts keep that have failed so far. -/
structure Withstood (evictionLabel : Option String) (inNamespace name : String)
    (founds : List (Option (Pod × Verdict))) (s : Scene) : Prop where
  sound : s.cluster.IsSound
  counted : founds.length ≤ s.events.countP Event.isVolumeRemoval
  /-- Once the pod was found to need recovery, it needs it. -/
  ill : ∀ pod verdict, some (pod, verdict) ∈ founds → verdict ≠ .healthy →
    ∀ pod', s.cluster.pods.get? (inNamespace, name) = some pod' →
      (s.cluster.verdict pod' evictionLabel).needsRecovery = true

theorem EndsInRace.counted (h : EndsInRace s s') :
    s.events.countP Event.isVolumeRemoval < s'.events.countP Event.isVolumeRemoval := by
  obtain ⟨volume, between, earlier, hmem, hevents⟩ := h
  have hone : 0 < (between.map Event.removed).countP Event.isVolumeRemoval :=
    List.countP_pos_iff.mpr ⟨_, List.mem_map_of_mem hmem, rfl⟩
  rw [hevents]
  simp only [List.countP_cons, List.countP_append]
  omega

theorem Withstood.again {f : Fault} (h : Withstood evictionLabel inNamespace name founds s)
    (htry : Attempted evictionLabel inNamespace name s found s₁ (.error f) s') :
    Withstood evictionLabel inNamespace name (found :: founds) s' := by
  obtain ⟨hsound, hrecorded, hwanes, hfound, hends⟩ := htry
  cases hends with
  | overtaken hwanes' hrace =>
    refine ⟨hsound, ?_, fun pod verdict hmem hill pod' hpod' => ?_⟩
    · have hfewer := hrecorded.sublist.countP_le (p := Event.isVolumeRemoval)
      have hmore := hrace.counted
      have hcounted := h.counted
      rw [List.length_cons]
      omega
    · have hpod := hwanes.pods _ pod' (hwanes'.pods _ pod' hpod')
      rcases List.mem_cons.mp hmem with rfl | hmem
      · obtain ⟨hsame, hdetects⟩ := hfound pod verdict rfl
        obtain rfl := Option.some.inj (hsame.symm.trans hpod)
        exact hwanes'.needsRecovery (hdetects.still hill)
      · exact (hwanes.trans hwanes').needsRecovery (h.ill pod verdict hmem hill pod' hpod)

theorem Retried.withstood {c : Cluster} (hnamespace : IsName inNamespace) (hname : IsName name)
    (hc : c.IsSound) (h : Retried evictionLabel inNamespace name ⟨c, []⟩ founds s) :
    Withstood evictionLabel inNamespace name founds s := by
  induction h with
  | start => exact ⟨hc, Nat.zero_le _, fun _ _ hmem => nomatch hmem⟩
  | again h htry ih => exact ih.again (htry.attempted hnamespace hname ih.sound)

/-! ## The recovery -/

/--
**Deletions do not derail a recovery.** Somebody else deletes objects of the cluster, at any time;
otherwise all requests are answered, and objects are well-formed. However many attempts at a
recovery have failed by now, the next one comes to its end. An attempt fails only if a volume is
deleted between its lookup and its replacement, so that no more attempts have failed than volumes
were deleted. Once the verdict on the pod was that it needs recovery, no attempt that still finds
the pod comes to the verdict that it is healthy. And an attempt with such a verdict that does not
fail leaves neither the pod nor a claim that it mounts, nor a claim on a volume that was looked up
in the clean start.
-/
theorem deletions_cannot_derail (evictionLabel : Option String) {inNamespace name : String}
    (hnamespace : IsName inNamespace) (hname : IsName name) {c : Cluster} (hc : c.IsSound)
    {founds : List (Option (Pod × Verdict))} {s : Scene}
    (h : Retried evictionLabel inNamespace name ⟨c, []⟩ founds s) :
    (∃ outcome s', Runs Scene.Reacts (remote (recover evictionLabel inNamespace name))
      s outcome s') ∧
    (∀ outcome s', Runs Scene.Reacts (remote (recover evictionLabel inNamespace name))
      s outcome s' ↔ ∃ found s₁, Tries evictionLabel inNamespace name s found s₁ outcome s') ∧
    founds.length ≤ s.events.countP Event.isVolumeRemoval ∧
    ∀ found s₁ outcome s', Tries evictionLabel inNamespace name s found s₁ outcome s' →
      (∀ f, outcome = .error f → EndsInRace s₁ s') ∧
      ∀ pod verdict, found = some (pod, verdict) →
        (∀ pod' verdict', some (pod', verdict') ∈ founds → verdict' ≠ .healthy →
          verdict ≠ .healthy) ∧
        (verdict ≠ .healthy → ∀ told, outcome = .ok told →
          told = verdict ∧ CleanedUp inNamespace name pod s₁ s') := by
  have hkept := h.withstood hnamespace hname hc
  refine ⟨exists_recover evictionLabel hnamespace hname hkept.sound,
    fun outcome s' => runs_recover_iff hnamespace hname hkept.sound, hkept.counted,
    fun found s₁ outcome s' htry => ?_⟩
  obtain ⟨-, -, hwanes, hfound, hends⟩ := htry.attempted hnamespace hname hkept.sound
  refine ⟨?_, fun pod verdict hsome => ⟨fun pod' verdict' hmem hill => ?_, ?_⟩⟩
  · rintro f rfl
    cases hends with
    | overtaken _ hrace => exact hrace
  · obtain ⟨hpod, hdetects⟩ := hfound pod verdict hsome
    exact hdetects.already (hkept.ill pod' verdict' hmem hill pod hpod)
  · rintro hill told rfl
    cases hends with
    | cleared hclears hpost =>
      obtain ⟨htold, hgone⟩ := hpost pod verdict hsome
      obtain ⟨since, hevents, hfreed⟩ := hclears.freed
      exact ⟨htold, (hgone hill).1, (hgone hill).2, since, hevents,
        fun volume v hmem hv => hfreed volume hmem v hv⟩

open Json in
def waitingPodDocument : Json := obj
  [("metadata", obj [("name", str "node-0"), ("namespace", str "ring")]),
    ("spec", obj [("containers", arr []), ("volumes", arr [obj [("name", str "data"),
      ("persistentVolumeClaim", obj [("claimName", str "data-0")])]])]),
    ("status", obj [("conditions", arr [obj [("type", str "PodScheduled"),
      ("status", str "False"), ("reason", str "Unschedulable")]])])]

open Json in
def lostClaimDocument : Json := obj
  [("metadata", obj [("name", str "data-0"), ("namespace", str "ring")]),
    ("spec", obj [("volumeName", str "disk-0")]), ("status", obj [("phase", str "Lost")])]

def lostVolume : Volume where
  metadata := { name := some "disk-0", resourceVersion := some "7" }
  spec := some { claimRef := some { name := some "data-0" } }

theorem lostVolume_isRegular : lostVolume.IsRegular := by
  refine ⟨⟨nofun, nofun, rfl⟩, fun s hs => ?_, rfl⟩
  obtain rfl := Option.some.inj hs
  rfl

theorem stranded_isSound : stranded.IsSound where
  pods ns n pod h := by
    obtain ⟨hkey, rfl⟩ := Table.eq_of_get?_singleton h
    cases hkey
    exact ⟨rfl, rfl, by decide, waitingPodDocument, rfl⟩
  claims ns n claim h := by
    obtain ⟨hkey, rfl⟩ := Table.eq_of_get?_singleton h
    cases hkey
    exact ⟨rfl, fun volume hvolume => Option.some.inj hvolume ▸ by decide, lostClaimDocument, rfl⟩
  volumes n v h := by
    obtain ⟨rfl, rfl⟩ := Table.eq_of_get?_singleton h
    exact ⟨rfl, fun host hhost => (nomatch hhost), lostVolume_isRegular⟩
  hosts n host h := nomatch h

/-- The volume of the stranded pod is deleted after it was looked up. -/
theorem tries_stranded : ∃ f, Tries none "ring" "node-0" ⟨stranded, []⟩
    (some (waitingPod, .claimLost "data-0"))
    ⟨stranded, [.sent .get (.claim "ring" "data-0"), .sent .get (.pod "ring" "node-0")]⟩
    (.error f)
    ⟨stranded.without (.volume "disk-0"), [.sent .put (.volume "disk-0"),
      .removed (.volume "disk-0"), .sent .get (.volume "disk-0"),
      .sent .get (.claim "ring" "data-0"), .sent .get (.claim "ring" "data-0"),
      .sent .get (.pod "ring" "node-0")]⟩ := by
  have hlookup (q : Question) (hnamed : q.target.IsNamed) (hlooks : q.changes = false)
      (events : List Event) :
      Runs Scene.Reacts (remoteAnswer q) ⟨stranded, events⟩ (stranded.answer q).1
        ⟨stranded, .sent q.method q.target :: events⟩ := by
    refine runs_lookup (.of_named hnamed ?_) hlooks stranded_isSound
    rintro v rfl
    cases hlooks
  have hpod : (Target.pod "ring" "node-0").IsNamed :=
    (Target.isNamed_namespaced (by decide) (by decide)).1
  have hclaim : (Target.claim "ring" "data-0").IsNamed :=
    (Target.isNamed_namespaced (by decide) (by decide)).2
  have hvolume : (Target.volume "disk-0").IsNamed := Target.isNamed_volume (by decide)
  have hput (events : List Event) : ∃ f, Runs Scene.Reacts
      (remoteAnswer (.replaceVolume lostVolume.unclaimed)) ⟨stranded, events⟩ (.error f)
      ⟨stranded.without (.volume "disk-0"), .sent .put (.volume "disk-0") ::
        .removed (.volume "disk-0") :: events⟩ := by
    have hremovals : Removals ⟨stranded, events⟩
        ⟨stranded.without (.volume "disk-0"), .removed (.volume "disk-0") :: events⟩ :=
      .remove .none nofun
    have hserves : (stranded.without (.volume "disk-0")).Serves (.volume "disk-0") .put
        (some lostVolume.unclaimed.toJson) (.answer 404 none)
        (stranded.without (.volume "disk-0")) :=
      .missing (by decide) (not_not.mpr rfl) (explains_none 404)
    have hrun : Runs Scene.Reacts (remoteAnswer (.replaceVolume lostVolume.unclaimed)) _ _ _ :=
      runs_remoteAnswer_of_serves hvolume hremovals hserves
    exact ⟨_, hrun⟩
  obtain ⟨f, hput⟩ := hput [.sent .get (.volume "disk-0"), .sent .get (.claim "ring" "data-0"),
    .sent .get (.claim "ring" "data-0"), .sent .get (.pod "ring" "node-0")]
  exact ⟨_, Plan.runs_perform.mpr (.ask (hlookup (.getPod "ring" "node-0") hpod rfl _)
      (.ask (hlookup (.getClaim "ring" "data-0") hclaim rfl _) (.done _ _))),
    Plan.runs_perform.mpr (.ask (hlookup (.getClaim "ring" "data-0") hclaim rfl _)
      (.ask (hlookup (.getVolume "disk-0") hvolume rfl _) (.ask hput (.done _ _))))⟩

/-- After the failed attempt the pod is found again, and still needs recovery. -/
theorem deletions_cannot_derail_stranded :
    IsName "ring" ∧ IsName "node-0" ∧ stranded.IsSound ∧ ∃ s,
      Retried none "ring" "node-0" ⟨stranded, []⟩ [some (waitingPod, .claimLost "data-0")] s ∧
      1 ≤ s.events.countP Event.isVolumeRemoval ∧
      ∃ found s₁ outcome s', Tries none "ring" "node-0" s found s₁ outcome s' ∧
        ∀ pod verdict, found = some (pod, verdict) → verdict ≠ .healthy := by
  obtain ⟨f, htry⟩ := tries_stranded
  have hretried := Retried.again .start htry
  have hnamespace : IsName "ring" := by decide
  have hname : IsName "node-0" := by decide
  obtain ⟨⟨outcome, s', hrun⟩, hruns, hcounted, htries⟩ :=
    deletions_cannot_derail none hnamespace hname stranded_isSound hretried
  obtain ⟨found, s₁, hnext⟩ := (hruns outcome s').mp hrun
  refine ⟨hnamespace, hname, stranded_isSound, _, hretried, hcounted, found, s₁, outcome, s', hnext,
    fun pod verdict hsome => ?_⟩
  exact ((htries found s₁ outcome s' hnext).2 pod verdict hsome).1 _ _ List.mem_cons_self nofun

end RingKeeper.Recovery
