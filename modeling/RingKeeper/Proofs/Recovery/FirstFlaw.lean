import Mathlib.Data.List.Forall2
import RingKeeper.Proofs.Recovery.ForeignVolumes

/-!
# The first flaw decides

The diagnosis of a pod goes through its claims in the order of its volumes, up to the first that has
a flaw.

1. `Cluster.Flawed` and `Cluster.Sound` list what a claim may be found to be, each with the lookups
   that it takes to find this; and `Cluster.Judged` the verdicts on a pod.
2. `Cluster.Finds` says what a procedure looks up and comes to while no lookup fails, and
   `Cluster.Finds.runs_iff` what becomes of it when one may. `Cluster.Judged.finds` says this of the
   diagnosis.
3. `names_first_flaw` puts these together. `obeys_recover_verdict` says of the recovery that nothing
   is changed before there is a verdict.
-/

namespace RingKeeper.Recovery

open Plan (Exchange Notes Obeys OnlyAsks Runs)

/-! ## Verdicts -/

/-- The pod has the eviction label, and one is configured. -/
def Marked (pod : Pod) (evictionLabel : Option String) : Prop :=
  ∃ label labels, evictionLabel = some label ∧ label ≠ "" ∧ pod.metadata.labels = some labels ∧
    labels.get? label = some "true"

/-- The scheduler gave up on the pod. -/
def GivenUp (pod : Pod) : Prop :=
  ∃ k ∈ pod.conditions, k.type = "PodScheduled" ∧ k.status = "False" ∧
    k.reason = some "Unschedulable"

theorem isEvicted_iff {pod : Pod} {evictionLabel : Option String} :
    isEvicted pod evictionLabel = true ↔ Marked pod evictionLabel := by
  unfold isEvicted Marked
  cases evictionLabel with
  | none => simp
  | some label =>
    by_cases hempty : label = ""
    · rw [hempty, Option.filter_some, if_neg (by simp)]
      simp
    · rw [Option.filter_some, if_pos (by simpa using hempty)]
      cases hlabels : pod.metadata.labels <;> simp [Pod.isLabelled, hlabels, hempty]

theorem isUnschedulable_iff {pod : Pod} : pod.isUnschedulable = true ↔ GivenUp pod := by
  unfold Pod.isUnschedulable GivenUp
  simp [and_assoc]

namespace Cluster

/-- The claim is bound to the volume that it names. -/
def IsBound (c : Cluster) (inNamespace claim volume : String) : Prop :=
  ∃ k, c.claims.get? (inNamespace, claim) = some k ∧ k.phase = some "Bound" ∧
    k.volumeName = some volume ∧ volume ≠ ""

/-- The flaws of a claim: the verdict that names it, and the lookups up to the one that shows it. -/
inductive Flawed (c : Cluster) (inNamespace claim : String) : Verdict → List Question → Prop where
  | claimMissing (hclaim : c.claims.get? (inNamespace, claim) = none) :
    Flawed c inNamespace claim (.claimMissing claim) [.getClaim inNamespace claim]
  | claimLost {k : Claim} (hclaim : c.claims.get? (inNamespace, claim) = some k)
    (hbound : k.phase ≠ some "Bound") (hpending : k.phase ≠ some "Pending") :
    Flawed c inNamespace claim (.claimLost claim) [.getClaim inNamespace claim]
  | volumeMissing {volume : String} (hbound : c.IsBound inNamespace claim volume)
    (hvolume : c.volumes.get? volume = none) :
    Flawed c inNamespace claim (.volumeMissing volume)
      [.getClaim inNamespace claim, .getVolume volume]
  | hostGone {volume host : String} {v : Volume} (hbound : c.IsBound inNamespace claim volume)
    (hvolume : c.volumes.get? volume = some v) (hpinned : v.requiredHost? = some host)
    (hhost : c.hosts.get? host = none) :
    Flawed c inNamespace claim (.hostGone host)
      [.getClaim inNamespace claim, .getVolume volume, .hostExists host]

/-- Why a claim has no flaw, with the lookups that show it. -/
inductive Sound (c : Cluster) (inNamespace claim : String) : List Question → Prop where
  | pending {k : Claim} (hclaim : c.claims.get? (inNamespace, claim) = some k)
    (hphase : k.phase = some "Pending") : Sound c inNamespace claim [.getClaim inNamespace claim]
  | unnamed {k : Claim} (hclaim : c.claims.get? (inNamespace, claim) = some k)
    (hphase : k.phase = some "Bound") (hname : ∀ volume, k.volumeName = some volume → volume = "") :
    Sound c inNamespace claim [.getClaim inNamespace claim]
  | unpinned {volume : String} {v : Volume} (hbound : c.IsBound inNamespace claim volume)
    (hvolume : c.volumes.get? volume = some v) (hpinned : v.requiredHost? = none) :
    Sound c inNamespace claim [.getClaim inNamespace claim, .getVolume volume]
  | hosted {volume host : String} {v : Volume} {h : Host}
    (hbound : c.IsBound inNamespace claim volume) (hvolume : c.volumes.get? volume = some v)
    (hpinned : v.requiredHost? = some host) (hhost : c.hosts.get? host = some h) :
    Sound c inNamespace claim
      [.getClaim inNamespace claim, .getVolume volume, .hostExists host]

/-- The verdicts on a pod, with the lookups up to the one that decides. -/
inductive Judged (c : Cluster) (pod : Pod) (evictionLabel : Option String) :
    Verdict → List Question → Prop where
  | evicted (hmarked : Marked pod evictionLabel) : Judged c pod evictionLabel .evicted []
  | scheduled (hmarked : ¬ Marked pod evictionLabel) (hpending : ¬ GivenUp pod) :
    Judged c pod evictionLabel .healthy []
  | sound {looked : List (List Question)} (hmarked : ¬ Marked pod evictionLabel)
    (hpending : GivenUp pod)
    (hclaims : List.Forall₂ (c.Sound pod.metadata.namespaceOrEmpty) pod.mountedClaims looked) :
    Judged c pod evictionLabel .healthy looked.flatten
  | flawed {before after : List String} {claim : String} {looked : List (List Question)}
    {verdict : Verdict} {asks : List Question} (hmarked : ¬ Marked pod evictionLabel)
    (hpending : GivenUp pod) (hclaims : pod.mountedClaims = before ++ claim :: after)
    (hbefore : List.Forall₂ (c.Sound pod.metadata.namespaceOrEmpty) before looked)
    (hflawed : c.Flawed pod.metadata.namespaceOrEmpty claim verdict asks) :
    Judged c pod evictionLabel verdict (looked.flatten ++ asks)

variable {c : Cluster} {inNamespace claim : String} {pod : Pod} {evictionLabel : Option String}
  {verdict : Verdict} {asks : List Question}

theorem exists_flawed_or_sound (c : Cluster) (inNamespace claim : String) :
    (∃ verdict asks, c.Flawed inNamespace claim verdict asks) ∨
      ∃ asks, c.Sound inNamespace claim asks := by
  cases hclaim : c.claims.get? (inNamespace, claim) with
  | none => exact Or.inl ⟨_, _, .claimMissing hclaim⟩
  | some k =>
    by_cases hphase : k.phase = some "Bound"
    · by_cases hname : ∀ volume, k.volumeName = some volume → volume = ""
      · exact Or.inr ⟨_, .unnamed hclaim hphase hname⟩
      · obtain ⟨volume, hname⟩ := not_forall.mp hname
        obtain ⟨hname, hne⟩ := Classical.not_imp.mp hname
        have hbound : c.IsBound inNamespace claim volume := ⟨k, hclaim, hphase, hname, hne⟩
        cases hvolume : c.volumes.get? volume with
        | none => exact Or.inl ⟨_, _, .volumeMissing hbound hvolume⟩
        | some v =>
          cases hpinned : v.requiredHost? with
          | none => exact Or.inr ⟨_, .unpinned hbound hvolume hpinned⟩
          | some host =>
            cases hhost : c.hosts.get? host with
            | none => exact Or.inl ⟨_, _, .hostGone hbound hvolume hpinned hhost⟩
            | some h => exact Or.inr ⟨_, .hosted hbound hvolume hpinned hhost⟩
    · by_cases hpending : k.phase = some "Pending"
      · exact Or.inr ⟨_, .pending hclaim hpending⟩
      · exact Or.inl ⟨_, _, .claimLost hclaim hphase hpending⟩

/-- The claims are all sound, or there is a first one that is not. -/
theorem exists_firstFlawed (c : Cluster) (inNamespace : String) (claims : List String) :
    (∃ looked, List.Forall₂ (c.Sound inNamespace) claims looked) ∨
      ∃ before claim after looked verdict asks, claims = before ++ claim :: after ∧
        List.Forall₂ (c.Sound inNamespace) before looked ∧
        c.Flawed inNamespace claim verdict asks := by
  induction claims with
  | nil => exact Or.inl ⟨[], .nil⟩
  | cons claim claims ih =>
    rcases c.exists_flawed_or_sound inNamespace claim with ⟨verdict, asks, hflawed⟩ | ⟨asks, hsound⟩
    · exact Or.inr ⟨[], claim, claims, [], verdict, asks, rfl, .nil, hflawed⟩
    · rcases ih with ⟨looked, hall⟩ |
        ⟨before, first, after, looked, verdict, asks', rfl, hbefore, h⟩
      · exact Or.inl ⟨asks :: looked, .cons hsound hall⟩
      · exact Or.inr ⟨claim :: before, first, after, asks :: looked, verdict, asks', rfl,
          .cons hsound hbefore, h⟩

theorem exists_judged (c : Cluster) (pod : Pod) (evictionLabel : Option String) :
    ∃ verdict asks, c.Judged pod evictionLabel verdict asks := by
  by_cases hmarked : Marked pod evictionLabel
  · exact ⟨_, _, .evicted hmarked⟩
  by_cases hpending : GivenUp pod
  · rcases c.exists_firstFlawed pod.metadata.namespaceOrEmpty pod.mountedClaims with
      ⟨looked, hall⟩ | ⟨before, claim, after, looked, verdict, asks, hclaims, hbefore, hflawed⟩
    · exact ⟨_, _, .sound hmarked hpending hall⟩
    · exact ⟨_, _, .flawed hmarked hpending hclaims hbefore hflawed⟩
  · exact ⟨_, _, .scheduled hmarked hpending⟩

end Cluster

/-! ## Lookups -/

/-- The call is answered from the cluster, or it fails; and it is noted. -/
def Consults (c : Cluster) (q : Question) (past : List (Exchange Answer)) (x : Answer q)
    (past' : List (Exchange Answer)) : Prop :=
  (x = (c.answer q).1 ∨ ∃ f, x = failed f q) ∧ past' = ⟨q, x⟩ :: past

namespace Cluster

/-- What is noted of lookups that do not fail, latest first. -/
def answered (c : Cluster) (asks : List Question) : List (Exchange Answer) :=
  (asks.map fun q => ⟨q, (c.answer q).1⟩).reverse

/-- While no lookup fails, the procedure comes to this result after these lookups. It passes each
failure on. -/
inductive Finds {α : Type} (c : Cluster) : Procedure (Attempt α) → α → List Question → Prop where
  | done (a : α) : Finds c (.done (.ok a)) a []
  | ask {q : Question} {next : Answer q → Procedure (Attempt α)} {a : α} {asks : List Question}
    (hlooks : q.changes = false) (hfails : ∀ f, next (failed f q) = .done (.error f))
    (hnext : Finds c (next (c.answer q).1) a asks) : Finds c (.ask q next) a (q :: asks)

variable {α β : Type} {c : Cluster} {p : Procedure (Attempt α)} {a : α} {asks more : List Question}

theorem Finds.bind {k : Attempt α → Procedure (Attempt β)} {b : β} (h : c.Finds p a asks)
    (hfails : ∀ f, k (.error f) = .done (.error f)) (hk : c.Finds (k (.ok a)) b more) :
    c.Finds (p >>= k) b (asks ++ more) := by
  induction h with
  | done a => exact hk
  | ask hlooks hnext hrest ih =>
    refine .ask hlooks (fun f => ?_) (ih hk)
    rw [hnext f]
    exact hfails f

/-- The cluster stays as it is. -/
theorem Finds.run (h : c.Finds p a asks) : c.run p = (.ok a, c) := by
  induction h with
  | done a => rfl
  | ask hlooks hfails hnext ih =>
    rw [run_ask, answer_of_not_changes hlooks]
    exact ih

theorem Finds.unique {a' : α} {asks' : List Question} (h : c.Finds p a asks)
    (h' : c.Finds p a' asks') : a' = a ∧ asks' = asks := by
  induction h generalizing asks' with
  | done a =>
    cases h'
    exact ⟨rfl, rfl⟩
  | ask hlooks hfails hnext ih =>
    cases h' with
    | ask hlooks' hfails' hnext' =>
      obtain ⟨rfl, rfl⟩ := ih hnext'
      exact ⟨rfl, rfl⟩

theorem answered_cons_append (c : Cluster) (q : Question) (asks : List Question)
    (past : List (Exchange Answer)) :
    c.answered (q :: asks) ++ past = c.answered asks ++ ⟨q, (c.answer q).1⟩ :: past := by
  simp [answered]

/-- Either no lookup fails, or the first that fails ends the procedure with its own fault. -/
theorem Finds.runs_iff (h : c.Finds p a asks) {x : Attempt α}
    {past past' : List (Exchange Answer)} :
    Runs (Consults c) p past x past' ↔
      (x = .ok a ∧ past' = c.answered asks ++ past) ∨
      ∃ before q after f, asks = before ++ q :: after ∧ x = .error f ∧
        past' = ⟨q, failed f q⟩ :: (c.answered before ++ past) := by
  induction h generalizing past with
  | done a =>
    rw [Plan.runs_done]
    simp [answered]
  | @ask q next a asks hlooks hfails hnext ih =>
    rw [Plan.runs_ask]
    constructor
    · rintro ⟨y, past₁, ⟨rfl | ⟨f, rfl⟩, rfl⟩, hrest⟩
      · rcases ih.mp hrest with ⟨rfl, rfl⟩ | ⟨before, q', after, f, rfl, rfl, rfl⟩
        · exact Or.inl ⟨rfl, (c.answered_cons_append q asks past).symm⟩
        · refine Or.inr ⟨q :: before, q', after, f, rfl, rfl, ?_⟩
          rw [answered_cons_append]
      · rw [hfails f] at hrest
        obtain ⟨rfl, rfl⟩ := Plan.runs_done.mp hrest
        exact Or.inr ⟨[], q, asks, f, rfl, rfl, rfl⟩
    · rintro (⟨rfl, rfl⟩ | ⟨before, q', after, f, hasks, rfl, rfl⟩)
      · refine ⟨_, _, ⟨Or.inl rfl, rfl⟩, ih.mpr (Or.inl ⟨rfl, ?_⟩)⟩
        exact c.answered_cons_append q asks past
      · cases before with
        | nil =>
          cases hasks
          refine ⟨_, _, ⟨Or.inr ⟨f, rfl⟩, rfl⟩, ?_⟩
          rw [hfails f]
          exact .done _ _
        | cons first before =>
          obtain ⟨rfl, rfl⟩ := List.cons.inj hasks
          refine ⟨_, _, ⟨Or.inl rfl, rfl⟩, ih.mpr (Or.inr ⟨before, q', after, f, rfl, rfl, ?_⟩)⟩
          rw [answered_cons_append]

/-! ## The diagnosis -/

theorem finds_ask {q : Question} {k : Answer q → Procedure (Attempt α)} (hlooks : q.changes = false)
    (hfails : ∀ f, k (failed f q) = .done (.error f)) {y : Answer q} (hanswer : (c.answer q).1 = y)
    (hk : c.Finds (k y) a asks) : c.Finds (Recovery.ask q >>= k) a (q :: asks) := by
  subst hanswer
  exact .ask hlooks hfails hk

theorem phase_getD {k : Claim} {phase : String} (h : phase ≠ "") :
    k.phase.getD "" = phase ↔ k.phase = some phase := by
  cases k.phase with
  | none => simpa using h.symm
  | some p => simp

theorem volume?_eq_none {k : Claim} (h : ∀ volume, k.volumeName = some volume → volume = "") :
    k.volume? = none := by
  unfold Claim.volume?
  rw [Option.filter_eq_none_iff]
  intro volume hname
  rw [h volume hname]
  decide

variable {inNamespace claim volume : String} {verdict : Verdict}

/-- A bound claim has the flaws of its volume. -/
theorem finds_of_bound {found : Option Verdict} (hbound : c.IsBound inNamespace claim volume)
    (h : c.Finds (volumeDefect? volume) found asks) :
    c.Finds (claimDefect? inNamespace claim) found (.getClaim inNamespace claim :: asks) := by
  obtain ⟨k, hclaim, hphase, hname, hne⟩ := hbound
  unfold claimDefect?
  refine finds_ask rfl (fun f => rfl) (congrArg Except.ok hclaim) ?_
  have hvolume : k.volume? = some volume := by
    unfold Claim.volume?
    rw [hname, Option.filter_some, if_pos (by simpa using hne)]
  dsimp only
  rw [hphase, Option.getD_some, hvolume]
  exact h

theorem Flawed.finds (h : c.Flawed inNamespace claim verdict asks) :
    c.Finds (claimDefect? inNamespace claim) (some verdict) asks := by
  cases h with
  | claimMissing hclaim =>
    exact finds_ask rfl (fun f => rfl) (congrArg Except.ok hclaim) (.done _)
  | @claimLost k hclaim hbound hpending =>
    refine finds_ask rfl (fun f => rfl) (congrArg Except.ok hclaim) ?_
    dsimp only
    split
    · rename_i hphase
      exact absurd ((phase_getD (by decide)).mp hphase) hbound
    · rename_i hphase
      exact absurd ((phase_getD (by decide)).mp hphase) hpending
    · exact .done _
  | volumeMissing hbound hvolume =>
    refine finds_of_bound hbound ?_
    exact finds_ask rfl (fun f => rfl) (congrArg Except.ok hvolume) (.done _)
  | hostGone hbound hvolume hpinned hhost =>
    refine finds_of_bound hbound (finds_ask rfl (fun f => rfl) (congrArg Except.ok hvolume) ?_)
    dsimp only
    rw [hpinned]
    refine finds_ask rfl (fun f => rfl) (y := .ok false) ?_ (.done _)
    dsimp only [answer]
    rw [hhost]
    rfl

theorem Sound.finds (h : c.Sound inNamespace claim asks) :
    c.Finds (claimDefect? inNamespace claim) none asks := by
  cases h with
  | pending hclaim hphase =>
    refine finds_ask rfl (fun f => rfl) (congrArg Except.ok hclaim) ?_
    dsimp only
    rw [hphase]
    exact .done _
  | unnamed hclaim hphase hname =>
    refine finds_ask rfl (fun f => rfl) (congrArg Except.ok hclaim) ?_
    dsimp only
    rw [hphase, Option.getD_some, volume?_eq_none hname]
    exact .done _
  | unpinned hbound hvolume hpinned =>
    refine finds_of_bound hbound (finds_ask rfl (fun f => rfl) (congrArg Except.ok hvolume) ?_)
    dsimp only
    rw [hpinned]
    exact .done _
  | hosted hbound hvolume hpinned hhost =>
    refine finds_of_bound hbound (finds_ask rfl (fun f => rfl) (congrArg Except.ok hvolume) ?_)
    dsimp only
    rw [hpinned]
    refine finds_ask rfl (fun f => rfl) (y := .ok true) ?_ (.done _)
    dsimp only [answer]
    rw [hhost]
    rfl

theorem Sound.not_flawed (h : c.Sound inNamespace claim asks) :
    ¬ c.Flawed inNamespace claim verdict more := by
  intro hflawed
  cases (h.finds.unique hflawed.finds).1

/-- Claims that are sound are gone through, and then the others. -/
theorem finds_afterSound {before rest : List String} {looked : List (List Question)}
    (hbefore : List.Forall₂ (c.Sound inNamespace) before looked)
    (hrest : c.Finds (firstDefect inNamespace rest) verdict asks) :
    c.Finds (firstDefect inNamespace (before ++ rest)) verdict (looked.flatten ++ asks) := by
  induction hbefore with
  | nil => exact hrest
  | cons hsound hall ih =>
    rw [List.flatten_cons, List.append_assoc]
    exact hsound.finds.bind (fun f => rfl) ih

/-- The diagnosis looks up what the verdict takes, and names it. -/
theorem Judged.finds {pod : Pod} {evictionLabel : Option String}
    (h : c.Judged pod evictionLabel verdict asks) :
    c.Finds (diagnose pod evictionLabel) verdict asks := by
  unfold diagnose
  cases h with
  | evicted hmarked =>
    rw [if_pos (isEvicted_iff.mpr hmarked)]
    exact .done _
  | scheduled hmarked hpending =>
    rw [if_neg (mt isEvicted_iff.mp hmarked), if_neg (mt isUnschedulable_iff.mp hpending)]
    exact .done _
  | sound hmarked hpending hclaims =>
    rw [if_neg (mt isEvicted_iff.mp hmarked), if_pos (isUnschedulable_iff.mpr hpending)]
    have hrest : c.Finds (firstDefect pod.metadata.namespaceOrEmpty []) .healthy [] := .done _
    have hall := finds_afterSound hclaims hrest
    rwa [List.append_nil, List.append_nil] at hall
  | @flawed before after claim looked _ asks hmarked hpending hclaims hbefore hflawed =>
    rw [if_neg (mt isEvicted_iff.mp hmarked), if_pos (isUnschedulable_iff.mpr hpending), hclaims]
    have hfirst : c.Finds (firstDefect pod.metadata.namespaceOrEmpty (claim :: after)) verdict
        (asks ++ []) := hflawed.finds.bind (fun f => rfl) (.done verdict)
    rw [List.append_nil] at hfirst
    exact finds_afterSound hbefore hfirst

theorem Flawed.ne_evicted (h : c.Flawed inNamespace claim verdict asks) : verdict ≠ .evicted := by
  cases h <;> exact nofun

theorem Flawed.ne_healthy (h : c.Flawed inNamespace claim verdict asks) : verdict ≠ .healthy := by
  cases h <;> exact nofun

variable {pod : Pod} {evictionLabel : Option String}

theorem Judged.evicted_iff (h : c.Judged pod evictionLabel verdict asks) :
    verdict = .evicted ↔ Marked pod evictionLabel := by
  cases h with
  | evicted hmarked => exact ⟨fun _ => hmarked, fun _ => rfl⟩
  | scheduled hmarked hpending => exact ⟨nofun, fun h => absurd h hmarked⟩
  | sound hmarked hpending hclaims => exact ⟨nofun, fun h => absurd h hmarked⟩
  | flawed hmarked hpending hclaims hbefore hflawed =>
    exact ⟨fun h => absurd h hflawed.ne_evicted, fun h => absurd h hmarked⟩

theorem exists_sound {claims : List String} {looked : List (List Question)}
    (h : List.Forall₂ (c.Sound inNamespace) claims looked) (hclaim : claim ∈ claims) :
    ∃ asks, c.Sound inNamespace claim asks := by
  induction h with
  | nil => exact nomatch hclaim
  | cons hsound hall ih =>
    rcases List.mem_cons.mp hclaim with rfl | hclaim
    · exact ⟨_, hsound⟩
    · exact ih hclaim

/-- Of the pods that are looked into, those are healthy whose claims have no flaw. -/
theorem Judged.healthy_iff (h : c.Judged pod evictionLabel verdict asks)
    (hmarked : ¬ Marked pod evictionLabel) (hpending : GivenUp pod) :
    verdict = .healthy ↔ ∀ claim ∈ pod.mountedClaims, ∀ flaw looked,
      ¬ c.Flawed pod.metadata.namespaceOrEmpty claim flaw looked := by
  cases h with
  | evicted hmarked' => exact absurd hmarked' hmarked
  | scheduled _ hpending' => exact absurd hpending hpending'
  | sound _ _ hclaims =>
    refine ⟨fun _ claim hclaim flaw looked hflawed => ?_, fun _ => rfl⟩
    obtain ⟨asks, hsound⟩ := exists_sound hclaims hclaim
    exact hsound.not_flawed hflawed
  | @flawed before after claim _ _ _ _ _ hclaims hbefore hflawed =>
    refine ⟨fun h => absurd h hflawed.ne_healthy, fun h => absurd hflawed (h claim ?_ _ _)⟩
    rw [hclaims]
    simp

end Cluster

/-! ## The recovery -/

/-- The cluster is only changed once the diagnosis of the pod that was looked up has come to a
verdict, and not to the one that the pod is healthy. -/
def ChangesJudged (evictionLabel : Option String) (inNamespace name : String) (q : Question)
    (past : List (Exchange Answer)) : Prop :=
  q.changes = true → ∃ pod verdict judged,
    Runs Notes (diagnose pod evictionLabel) [⟨.getPod inNamespace name, .ok (some pod)⟩]
      (.ok verdict) judged ∧ judged <:+ past ∧ verdict ≠ .healthy

theorem changesJudged_of_lookup {evictionLabel : Option String} {inNamespace name : String}
    {q : Question} {past : List (Exchange Answer)} (h : q.changes = false) :
    ChangesJudged evictionLabel inNamespace name q past := by
  intro hchanges
  rw [h] at hchanges
  cases hchanges

theorem obeys_recover_verdict (evictionLabel : Option String) (inNamespace name : String) :
    Obeys (ChangesJudged evictionLabel inNamespace name) []
      (recover evictionLabel inNamespace name) := by
  refine ⟨changesJudged_of_lookup rfl, fun x => ?_⟩
  cases x with
  | error f => trivial
  | ok found =>
    cases found with
    | none => trivial
    | some pod =>
      have hdiagnose : Obeys (ChangesJudged evictionLabel inNamespace name)
          [⟨.getPod inNamespace name, .ok (some pod)⟩] (diagnose pod evictionLabel) :=
        (looksUp_diagnose pod evictionLabel).onlyLooksUp.onlyAsks.obeys
          (fun q past hlooks => changesJudged_of_lookup hlooks) _
      refine hdiagnose.bind fun x judged hrun => ?_
      cases x with
      | error f => trivial
      | ok verdict =>
        show Obeys _ judged (if verdict.needsRecovery then _ else _)
        split
        · rename_i hneeds
          -- from here on anything may be asked
          refine (Plan.obeys_true _ judged).after.mono fun q past hpast _ => ?_
          exact ⟨pod, verdict, judged, hrun, hpast.1, of_decide_eq_true hneeds⟩
        · trivial

/-! ## The first flaw -/

/--
**The verdict names the first flaw.** Each pod has one verdict (`Cluster.Judged`), whatever is in
the cluster: it is evicted exactly if it is marked; it is healthy without any lookup if it is not,
and the scheduler did not give up on it; and otherwise the first claim decides that has a flaw, in
the order of its volumes, so that it is healthy exactly if none has. The diagnosis comes to this
verdict if no lookup fails, and leaves the cluster as it was; it never asks for a change. If lookups
may fail, it has either made all lookups up to the one that decides, and no others, and comes to the
verdict; or one of them failed, and was the last one that it made, and it ends with just that fault.
Whatever is answered, a recovery changes the cluster only after a verdict other than healthy.
-/
theorem names_first_flaw (c : Cluster) (pod : Pod) (evictionLabel : Option String) :
    (∃ verdict asks, c.Judged pod evictionLabel verdict asks ∧
      ∀ verdict' asks', c.Judged pod evictionLabel verdict' asks' →
        verdict' = verdict ∧ asks' = asks) ∧
    (∀ verdict asks, c.Judged pod evictionLabel verdict asks →
      (verdict = .evicted ↔ Marked pod evictionLabel) ∧
      (¬ Marked pod evictionLabel → GivenUp pod →
        (verdict = .healthy ↔ ∀ claim ∈ pod.mountedClaims, ∀ flaw looked,
          ¬ c.Flawed pod.metadata.namespaceOrEmpty claim flaw looked)) ∧
      c.run (diagnose pod evictionLabel) = (.ok verdict, c) ∧
      ∀ a past, Runs (Consults c) (diagnose pod evictionLabel) [] a past ↔
        (a = .ok verdict ∧ past = c.answered asks) ∨
        ∃ before q after f, asks = before ++ q :: after ∧ a = .error f ∧
          past = ⟨q, failed f q⟩ :: c.answered before) ∧
    (¬ Marked pod evictionLabel → ¬ GivenUp pod →
      diagnose pod evictionLabel = .done (.ok .healthy)) ∧
    OnlyLooksUp (diagnose pod evictionLabel) ∧
    ∀ inNamespace name, Obeys (ChangesJudged evictionLabel inNamespace name) []
      (recover evictionLabel inNamespace name) := by
  refine ⟨?_, fun verdict asks h => ?_, fun hmarked hpending => ?_,
    (looksUp_diagnose pod evictionLabel).onlyLooksUp, obeys_recover_verdict evictionLabel⟩
  · obtain ⟨verdict, asks, h⟩ := c.exists_judged pod evictionLabel
    exact ⟨verdict, asks, h, fun _ _ h' => h.finds.unique h'.finds⟩
  · refine ⟨h.evicted_iff, h.healthy_iff, h.finds.run, fun a past => ?_⟩
    rw [h.finds.runs_iff]
    simp only [List.append_nil]
  · unfold diagnose
    rw [if_neg (mt isEvicted_iff.mp hmarked), if_neg (mt isUnschedulable_iff.mp hpending)]
    rfl

/-- A pod with three claims. -/
def pinnedPod : Pod where
  metadata := { name := some "node-0", inNamespace := some "ring" }
  volumes := [.claim "log-0", .other, .claim "data-0", .claim "hint-0"]
  conditions := [⟨"PodScheduled", "False", some "Unschedulable"⟩]

def onHost9 : NodeTerm where
  matchExpressions := some [⟨Volume.hostnameKey, "In", some ["host-9"]⟩]

def pinnedVolume : Volume where
  metadata := { name := some "disk-0" }
  spec := some { nodeAffinity := some { required := some [onHost9] } }

/-- The first claim is pending; the volume of the second is pinned to a node that is gone; and the
third does not exist. -/
def pinned : Cluster where
  claims := ⟨[
    (("ring", "log-0"), { metadata := { name := some "log-0" }, phase := some "Pending" }),
    (("ring", "data-0"),
      { metadata := { name := some "data-0" }
        volumeName := some "disk-0", phase := some "Bound" })]⟩
  volumes := ⟨[("disk-0", pinnedVolume)]⟩

/-- The second claim decides, and the third is not looked up. -/
theorem judged_pinned : pinned.Judged pinnedPod none (.hostGone "host-9")
    [.getClaim "ring" "log-0", .getClaim "ring" "data-0", .getVolume "disk-0",
      .hostExists "host-9"] := by
  have hmarked : ¬ Marked pinnedPod none := by
    rintro ⟨label, labels, hlabel, -⟩
    cases hlabel
  have hpending : GivenUp pinnedPod := ⟨_, List.mem_singleton.mpr rfl, rfl, rfl, rfl⟩
  have hclaims : pinnedPod.mountedClaims = ["log-0"] ++ "data-0" :: ["hint-0"] := rfl
  have hbound : pinned.IsBound "ring" "data-0" "disk-0" := ⟨_, rfl, rfl, rfl, by decide⟩
  have hvolume : pinned.volumes.get? "disk-0" = some pinnedVolume := rfl
  have hhost : pinnedVolume.requiredHost? = some "host-9" := by decide
  exact .flawed hmarked hpending hclaims (.cons (.pending rfl rfl) .nil)
    (.hostGone hbound hvolume hhost rfl)

theorem names_first_flaw_pinned :
    pinned.run (diagnose pinnedPod none) = (.ok (.hostGone "host-9"), pinned) ∧
      Runs (Consults pinned) (diagnose pinnedPod none) [] (.error (.message "timed out"))
        (⟨.getClaim "ring" "data-0", .error (.message "timed out")⟩ ::
          pinned.answered [.getClaim "ring" "log-0"]) := by
  obtain ⟨-, -, hrun, hruns⟩ := (names_first_flaw pinned pinnedPod none).2.1 _ _ judged_pinned
  exact ⟨hrun, (hruns _ _).mpr (Or.inr ⟨[_], _, [_, _], .message "timed out", rfl, rfl, rfl⟩)⟩

end RingKeeper.Recovery
