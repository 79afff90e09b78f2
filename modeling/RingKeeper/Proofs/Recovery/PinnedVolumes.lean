import RingKeeper.Proofs.Recovery.Convergence
import RingKeeper.Proofs.Recovery.FirstFlaw

/-!
# Volumes that are pinned to a node

A volume may require of its node that its hostname is one of some values, or that it is none of
them, or no more than that it has one.

1. `Volume.PinnedTo` says that a volume requires a host by name. `Volume.Decides` singles out the
   requirement that the diagnosis goes by, and `Volume.Decides.pinnedTo_iff` says when the host that
   it takes from there is one that the volume is pinned to.
2. `runs_diagnose_ok` and `judged_hostGone_iff` lead from the diagnosis to that requirement.
3. `reports_host_gone_iff` says when a node is reported gone and what the recovery then does, and
   `reports_excluded_host` that it also does so for a node that a volume must not be on.
-/

namespace RingKeeper

/-! ## Requirements -/

/-- The first host that the requirement names. -/
def NodeRequirement.firstHost? (r : NodeRequirement) : Option String := r.values.bind List.head?

/-- The requirement is that the hostname is one of some values, of which this is the first. -/
structure NodeRequirement.Pins (r : NodeRequirement) (host : String) : Prop where
  key : r.key = Volume.hostnameKey
  operator : r.operator = "In"
  first : r.firstHost? = some host

namespace Volume

/-- The requirements on the labels of the volume's node, those of all terms in their order. -/
def requirements (v : Volume) : List NodeRequirement :=
  ((v.spec.bind (·.nodeAffinity)).bind (·.required)).elim []
    fun terms => terms.flatMap fun t => t.matchExpressions.getD []

/-- The volume really is pinned to the host. -/
def PinnedTo (v : Volume) (host : String) : Prop := ∃ r ∈ v.requirements, r.Pins host

/-- This is the first of the volume's requirements on the hostname, and others come later. -/
structure Decides (v : Volume) (r : NodeRequirement) (later : List NodeRequirement) : Prop where
  key : r.key = hostnameKey
  first : ∃ earlier, v.requirements = earlier ++ r :: later ∧ ∀ e ∈ earlier, e.key ≠ hostnameKey

variable {v : Volume} {r : NodeRequirement} {later : List NodeRequirement} {host : String}

theorem requiredHost?_eq (v : Volume) :
    v.requiredHost? = (v.requirements.find? fun r => decide (r.key = hostnameKey)).bind
      (·.firstHost?) := by
  rcases v with ⟨metadata, spec, rest⟩
  rcases spec with - | ⟨claimRef, affinity, specRest⟩
  · rfl
  rcases affinity with - | ⟨- | terms⟩ <;> rfl

theorem find?_hostname_eq_some :
    (v.requirements.find? fun r => decide (r.key = hostnameKey)) = some r ↔
      ∃ later, v.Decides r later := by
  rw [List.find?_eq_some_iff_append]
  constructor
  · rintro ⟨hkey, earlier, later, hsplit, hearlier⟩
    refine ⟨later, of_decide_eq_true hkey, earlier, hsplit, fun e he hkey' => ?_⟩
    simpa [hkey'] using hearlier e he
  · rintro ⟨later, hkey, earlier, hsplit, hearlier⟩
    refine ⟨decide_eq_true hkey, earlier, later, hsplit, fun e he => ?_⟩
    simpa using hearlier e he

/-- The host is the first that the deciding requirement names, whatever is required of it. -/
theorem requiredHost?_eq_some :
    v.requiredHost? = some host ↔ ∃ r later, v.Decides r later ∧ r.firstHost? = some host := by
  rw [requiredHost?_eq, Option.bind_eq_some_iff]
  constructor
  · rintro ⟨r, hfind, hhost⟩
    obtain ⟨later, hdecides⟩ := find?_hostname_eq_some.mp hfind
    exact ⟨r, later, hdecides, hhost⟩
  · rintro ⟨r, later, hdecides, hhost⟩
    exact ⟨r, find?_hostname_eq_some.mpr ⟨later, hdecides⟩, hhost⟩

/-- The host is one that the volume is pinned to if the deciding requirement is for it, and not
against it; or else if a later one is for it. -/
theorem Decides.pinnedTo_iff (h : v.Decides r later) (hhost : r.firstHost? = some host) :
    v.PinnedTo host ↔ r.operator = "In" ∨ ∃ r' ∈ later, r'.Pins host := by
  obtain ⟨hkey, earlier, hsplit, hearlier⟩ := h
  unfold PinnedTo
  rw [hsplit]
  constructor
  · rintro ⟨r', hmem, hpins⟩
    rcases List.mem_append.mp hmem with hmem | hmem
    · exact absurd hpins.key (hearlier r' hmem)
    · rcases List.mem_cons.mp hmem with rfl | hmem
      · exact Or.inl hpins.operator
      · exact Or.inr ⟨r', hmem, hpins⟩
  · rintro (hoperator | ⟨r', hmem, hpins⟩)
    · exact ⟨r, List.mem_append_right _ List.mem_cons_self, hkey, hoperator, hhost⟩
    · exact ⟨r', List.mem_append_right _ (List.mem_cons_of_mem _ hmem), hpins⟩

end Volume

namespace Recovery

open Plan (Runs)

variable {c : Cluster} {pod : Pod} {evictionLabel : Option String} {verdict : Verdict}
  {host : String}

/-! ## From the diagnosis to the requirement -/

/-- The diagnosis can only come to the one verdict. -/
theorem runs_diagnose_ok :
    (∃ past, Runs (Consults c) (diagnose pod evictionLabel) [] (.ok verdict) past) ↔
      ∃ asks, c.Judged pod evictionLabel verdict asks := by
  obtain ⟨judged, asks, hjudged⟩ := c.exists_judged pod evictionLabel
  constructor
  · rintro ⟨past, hrun⟩
    rcases hjudged.finds.runs_iff.mp hrun with ⟨hok, -⟩ | ⟨-, -, -, f, -, herror, -⟩
    · cases hok
      exact ⟨asks, hjudged⟩
    · cases herror
  · rintro ⟨asks', h⟩
    exact ⟨_, h.finds.runs_iff.mpr (Or.inl ⟨rfl, rfl⟩)⟩

namespace Cluster

/-- The claim is bound to a volume whose deciding requirement names this host first, and there is no
such host. -/
def NamesMissing (c : Cluster) (inNamespace claim host : String) : Prop :=
  ∃ volume v r later, c.IsBound inNamespace claim volume ∧ c.volumes.get? volume = some v ∧
    v.Decides r later ∧ r.firstHost? = some host ∧ c.hosts.get? host = none

theorem flawed_hostGone_iff {inNamespace claim : String} :
    (∃ asks, c.Flawed inNamespace claim (.hostGone host) asks) ↔
      c.NamesMissing inNamespace claim host := by
  constructor
  · rintro ⟨asks, h⟩
    cases h with
    | @hostGone volume _ v hbound hvolume hpinned hhost =>
      obtain ⟨r, later, hdecides, hfirst⟩ := Volume.requiredHost?_eq_some.mp hpinned
      exact ⟨volume, v, r, later, hbound, hvolume, hdecides, hfirst, hhost⟩
  · rintro ⟨volume, v, r, later, hbound, hvolume, hdecides, hfirst, hhost⟩
    have hpinned := Volume.requiredHost?_eq_some.mpr ⟨r, later, hdecides, hfirst⟩
    exact ⟨_, .hostGone hbound hvolume hpinned hhost⟩

theorem exists_forall₂_sound {inNamespace : String} {claims : List String} :
    (∃ looked, List.Forall₂ (c.Sound inNamespace) claims looked) ↔
      ∀ claim ∈ claims, ∃ asks, c.Sound inNamespace claim asks := by
  constructor
  · rintro ⟨looked, h⟩ claim hclaim
    exact exists_sound h hclaim
  · intro h
    induction claims with
    | nil => exact ⟨[], .nil⟩
    | cons claim claims ih =>
      obtain ⟨asks, hsound⟩ := h claim List.mem_cons_self
      obtain ⟨looked, hall⟩ := ih fun other hother => h other (List.mem_cons_of_mem _ hother)
      exact ⟨asks :: looked, .cons hsound hall⟩

/-- A node is found gone for the first claim that has a flaw. -/
theorem judged_hostGone_iff :
    (∃ asks, c.Judged pod evictionLabel (.hostGone host) asks) ↔
      ¬ Marked pod evictionLabel ∧ GivenUp pod ∧ ∃ before claim after,
        pod.mountedClaims = before ++ claim :: after ∧
        (∀ earlier ∈ before, ∃ asks, c.Sound pod.metadata.namespaceOrEmpty earlier asks) ∧
        c.NamesMissing pod.metadata.namespaceOrEmpty claim host := by
  constructor
  · rintro ⟨asks, h⟩
    cases h with
    | @flawed before after claim looked _ _ hmarked hpending hclaims hbefore hflawed =>
      exact ⟨hmarked, hpending, before, claim, after, hclaims,
        exists_forall₂_sound.mp ⟨looked, hbefore⟩, flawed_hostGone_iff.mp ⟨_, hflawed⟩⟩
  · rintro ⟨hmarked, hpending, before, claim, after, hclaims, hbefore, hmissing⟩
    obtain ⟨looked, hsound⟩ := exists_forall₂_sound.mpr hbefore
    obtain ⟨asks, hflawed⟩ := flawed_hostGone_iff.mpr hmissing
    exact ⟨_, .flawed hmarked hpending hclaims hsound hflawed⟩

end Cluster

/-- The verdict that a recovery acts on is the one that the diagnosis comes to. -/
theorem verdict_of_judged {asks : List Question} (h : c.Judged pod evictionLabel verdict asks) :
    c.verdict pod evictionLabel = verdict := by
  have hrun := (c.run_diagnose pod evictionLabel).symm.trans h.finds.run
  exact Except.ok.inj (congrArg Prod.fst hrun)

/-! ## A node that is reported gone -/

/--
**When a node is reported gone.** Whatever lookups fail, the diagnosis can report that a host is gone
exactly if the pod is not marked, the scheduler gave up on it, and the first of its claims that has a
flaw is bound to a volume which exists and whose first requirement on the hostname names the missing
host first. What this requirement says of the host does not matter: the volume is pinned to the host
if the requirement is for it, and otherwise only if a later one is. In either case the recovery of
the pod, if no call fails, deletes the pod with all the claims that it mounts, and takes their
volumes from them.
-/
theorem reports_host_gone_iff (c : Cluster) (pod : Pod) (evictionLabel : Option String)
    (host : String) :
    ((∃ past, Runs (Consults c) (diagnose pod evictionLabel) [] (.ok (.hostGone host)) past) ↔
      ¬ Marked pod evictionLabel ∧ GivenUp pod ∧ ∃ before claim after,
        pod.mountedClaims = before ++ claim :: after ∧
        (∀ earlier ∈ before, ∃ asks, c.Sound pod.metadata.namespaceOrEmpty earlier asks) ∧
        c.NamesMissing pod.metadata.namespaceOrEmpty claim host) ∧
    (∀ (v : Volume) r later, v.Decides r later → r.firstHost? = some host →
      (v.PinnedTo host ↔ r.operator = "In" ∨ ∃ r' ∈ later, r'.Pins host)) ∧
    ∀ inNamespace name, c.WellKept → c.pods.get? (inNamespace, name) = some pod →
      (∃ past, Runs (Consults c) (diagnose pod evictionLabel) [] (.ok (.hostGone host)) past) →
      ∃ c', c.run (recover evictionLabel inNamespace name) = (.ok (.hostGone host), c') ∧
        StartedOver c inNamespace name pod c' := by
  refine ⟨runs_diagnose_ok.trans Cluster.judged_hostGone_iff,
    fun v r later hdecides hhost => hdecides.pinnedTo_iff hhost,
    fun inNamespace name hc hpod hrun => ⟨c.cleaned pod, ?_, ?_⟩⟩
  · obtain ⟨asks, hjudged⟩ := runs_diagnose_ok.mp hrun
    rw [Cluster.run_recover hc, hpod]
    dsimp only
    rw [verdict_of_judged hjudged]
    rfl
  · obtain ⟨rfl, rfl⟩ := hc.pods _ _ pod hpod
    exact startedOver_cleaned c pod

/-- The nodes other than the one of this name. -/
def awayFrom (host : String) : NodeTerm where
  matchExpressions := some [⟨Volume.hostnameKey, "NotIn", some [host]⟩]

def excludingVolume : Volume where
  metadata := { name := some "disk-1", resourceVersion := some "7" }
  spec := some
    { claimRef := some { name := some "data-0", inNamespace := some "ring" }
      nodeAffinity := some { required := some [awayFrom "host-9"] } }

/-- The volume of the pod's only claim may be mounted on each node but on one that does not exist. -/
def excluded : Cluster where
  pods := ⟨[(("ring", "node-0"), waitingPod)]⟩
  claims := ⟨[(("ring", "data-0"),
    { metadata := { name := some "data-0", inNamespace := some "ring" }
      volumeName := some "disk-1", phase := some "Bound" })]⟩
  volumes := ⟨[("disk-1", excludingVolume)]⟩
  hosts := ⟨[("host-1", { metadata := { name := some "host-1" } })]⟩

theorem excluded_wellKept : excluded.WellKept := by
  refine ⟨fun ns n pod h => ?_, fun ns n claim h => ?_, fun n v h => ?_⟩
  · obtain ⟨hkey, rfl⟩ := Table.eq_of_get?_singleton h
    cases hkey
    exact ⟨rfl, rfl⟩
  · obtain ⟨hkey, rfl⟩ := Table.eq_of_get?_singleton h
    cases hkey
    rfl
  · obtain ⟨rfl, rfl⟩ := Table.eq_of_get?_singleton h
    rfl

theorem decides_excludingVolume :
    excludingVolume.Decides ⟨Volume.hostnameKey, "NotIn", some ["host-9"]⟩ [] :=
  ⟨rfl, [], rfl, fun _ he => nomatch he⟩

theorem excluded_namesMissing : excluded.NamesMissing "ring" "data-0" "host-9" :=
  ⟨"disk-1", excludingVolume, _, [], ⟨_, rfl, rfl, rfl, by decide⟩, rfl, decides_excludingVolume,
    rfl, rfl⟩

theorem runs_diagnose_excluded : ∃ past,
    Runs (Consults excluded) (diagnose waitingPod none) [] (.ok (.hostGone "host-9")) past := by
  refine runs_diagnose_ok.mpr (Cluster.judged_hostGone_iff.mpr ⟨?_, ?_, [], "data-0", [], rfl,
    fun _ he => (nomatch he), excluded_namesMissing⟩)
  · rintro ⟨label, labels, hlabel, -⟩
    cases hlabel
  · exact ⟨_, List.mem_singleton.mpr rfl, rfl, rfl, rfl⟩

theorem not_pinnedTo_excludingVolume : ¬ excludingVolume.PinnedTo "host-9" := by
  rw [decides_excludingVolume.pinnedTo_iff rfl]
  rintro (hoperator | ⟨r, hr, -⟩)
  · exact absurd hoperator (by decide)
  · cases hr

theorem reports_host_gone_iff_excluded :
    excludingVolume.Decides ⟨Volume.hostnameKey, "NotIn", some ["host-9"]⟩ [] ∧
      ¬ excludingVolume.PinnedTo "host-9" ∧ excluded.WellKept ∧
      ∃ c', excluded.run (recover none "ring" "node-0") = (.ok (.hostGone "host-9"), c') ∧
        StartedOver excluded "ring" "node-0" waitingPod c' := by
  obtain ⟨-, hpinned, hrecover⟩ := reports_host_gone_iff excluded waitingPod none "host-9"
  refine ⟨decides_excludingVolume, fun h => ?_, excluded_wellKept,
    hrecover "ring" "node-0" excluded_wellKept rfl runs_diagnose_excluded⟩
  rcases (hpinned _ _ _ decides_excludingVolume rfl).mp h with hoperator | ⟨r, hr, -⟩
  · exact absurd hoperator (by decide)
  · cases hr

/-- A node is reported gone for a pod of which no bound claim has a volume that is pinned to it, and
the claim of the pod is deleted. -/
theorem reports_excluded_host :
    (∃ past, Runs (Consults excluded) (diagnose waitingPod none) []
      (.ok (.hostGone "host-9")) past) ∧
    (∀ claim ∈ waitingPod.mountedClaims, ∀ volume v, excluded.IsBound "ring" claim volume →
      excluded.volumes.get? volume = some v → ¬ v.PinnedTo "host-9") ∧
    (excluded.claims.get? ("ring", "data-0")).isSome = true ∧
    (excluded.run (recover none "ring" "node-0")).2.claims.get? ("ring", "data-0") = none := by
  refine ⟨runs_diagnose_excluded, fun claim _ volume v _ hvolume => ?_, rfl, rfl⟩
  obtain ⟨rfl, rfl⟩ := Table.eq_of_get?_singleton hvolume
  exact not_pinnedTo_excludingVolume

end Recovery

end RingKeeper
