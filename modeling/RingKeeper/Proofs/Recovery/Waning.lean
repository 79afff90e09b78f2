import RingKeeper.Proofs.Recovery.Halves

/-!
# Recoveries in a waning cluster

Objects go and volumes lose their claims, be it by the recovery or by somebody else.

1. `Wanes` says that nothing else happens to a cluster. A pod that needs recovery goes on to need it
   (`Wanes.needsRecovery`), and a volume that has no claim gets none.
2. `diagnose_ends` says what the diagnosis comes to. It goes by lookups at different times, but it
   `Detects` what is wrong at its start, and what it detects is still wrong at its end.
3. `startOver_ends` says how a clean start ends. It has cleared up (`Clears`), or it was overtaken
   by the removal of a volume that it was about to replace (`EndsInRace`).
4. `assess_ends` and `treat_ends` say this of the halves of a recovery.
-/

namespace RingKeeper.Recovery

open Plan (Runs)

variable {c c' c'' : Cluster} {s s' s'' : Scene} {q : Question}

/-! ## Waning clusters -/

namespace Cluster

theorem volumeFlaw?_ne_none {volume : String} :
    c.volumeFlaw? volume ≠ none ↔ ∀ v, c.volumes.get? volume = some v →
      ∃ host, v.requiredHost? = some host ∧ c.hosts.get? host = none := by
  unfold volumeFlaw?
  cases c.volumes.get? volume with
  | none => simp
  | some v =>
    cases hhost : v.requiredHost? with
    | none => simp [hhost]
    | some host => simp [hhost]

theorem claimFlaw?_ne_none {inNamespace claim : String} :
    c.claimFlaw? inNamespace claim ≠ none ↔ ∀ k, c.claims.get? (inNamespace, claim) = some k →
      k.phase.getD "" ≠ "Pending" ∧ (k.phase.getD "" = "Bound" →
        ∃ volume, k.volume? = some volume ∧ c.volumeFlaw? volume ≠ none) := by
  unfold claimFlaw?
  cases c.claims.get? (inNamespace, claim) with
  | none => simp
  | some k =>
    dsimp only
    split
    · rename_i hbound
      cases hvolume : k.volume? <;> simp [hbound, hvolume]
    · rename_i hpending
      simp [hpending]
    · rename_i hbound hpending
      simpa using ⟨hpending, fun h => absurd h hbound⟩

/-- The volume has no claim, if there is one at all. -/
def Unclaimed (c : Cluster) (volume : String) : Prop :=
  ∀ v, c.volumes.get? volume = some v → v.claimRef? = none

end Cluster

/-- Objects may be gone, and volumes without their claims, and all that is left is as it was. -/
structure Wanes (c c' : Cluster) : Prop where
  pods : c'.pods.Within c.pods
  claims : c'.claims.Within c.claims
  volumes : ∀ volume v', c'.volumes.get? volume = some v' → ∃ v, c.volumes.get? volume = some v ∧
    v'.requiredHost? = v.requiredHost? ∧ (v.claimRef? = none → v'.claimRef? = none)
  hosts : c'.hosts.Within c.hosts

theorem Fewer.wanes (h : Fewer c c') : Wanes c c' :=
  ⟨h.pods, h.claims, fun volume v' hv' => ⟨v', h.volumes volume v' hv', rfl, id⟩, h.hosts⟩

theorem Wanes.refl (c : Cluster) : Wanes c c := (Fewer.refl c).wanes

theorem Wanes.trans (h : Wanes c c') (h' : Wanes c' c'') : Wanes c c'' where
  pods := h'.pods.trans h.pods
  claims := h'.claims.trans h.claims
  volumes volume v'' hv'' := by
    obtain ⟨v', hv', hhost', hclaim'⟩ := h'.volumes volume v'' hv''
    obtain ⟨v, hv, hhost, hclaim⟩ := h.volumes volume v' hv'
    exact ⟨v, hv, hhost'.trans hhost, hclaim' ∘ hclaim⟩
  hosts := h'.hosts.trans h.hosts

theorem none_of_within {κ α : Type} [DecidableEq κ] {t u : Table κ α} (h : t.Within u) {key : κ}
    (hu : u.get? key = none) : t.get? key = none := by
  cases ht : t.get? key with
  | none => rfl
  | some a => exact absurd (h key a ht) (hu ▸ Option.some_ne_none a ∘ Eq.symm)

theorem Wanes.unclaimed (h : Wanes c c') {volume : String} (hc : c.Unclaimed volume) :
    c'.Unclaimed volume := by
  intro v' hv'
  obtain ⟨v, hv, -, hclaim⟩ := h.volumes volume v' hv'
  exact hclaim (hc v hv)

theorem Wanes.volumeFlaw? (h : Wanes c c') {volume : String} (hc : c.volumeFlaw? volume ≠ none) :
    c'.volumeFlaw? volume ≠ none := by
  rw [Cluster.volumeFlaw?_ne_none] at hc ⊢
  intro v' hv'
  obtain ⟨v, hv, hhost, -⟩ := h.volumes volume v' hv'
  obtain ⟨host, hrequired, hgone⟩ := hc v hv
  exact ⟨host, hhost.trans hrequired, none_of_within h.hosts hgone⟩

theorem Wanes.claimFlaw? (h : Wanes c c') {inNamespace claim : String}
    (hc : c.claimFlaw? inNamespace claim ≠ none) : c'.claimFlaw? inNamespace claim ≠ none := by
  rw [Cluster.claimFlaw?_ne_none] at hc ⊢
  intro k hk
  obtain ⟨hpending, hbound⟩ := hc k (h.claims _ k hk)
  refine ⟨hpending, fun hphase => ?_⟩
  obtain ⟨volume, hvolume, hflaw⟩ := hbound hphase
  exact ⟨volume, hvolume, h.volumeFlaw? hflaw⟩

/-- A pod does not get well by it. -/
theorem Wanes.needsRecovery (h : Wanes c c') {pod : Pod} {evictionLabel : Option String}
    (hc : (c.verdict pod evictionLabel).needsRecovery = true) :
    (c'.verdict pod evictionLabel).needsRecovery = true := by
  rw [Cluster.needsRecovery_verdict] at hc ⊢
  refine hc.imp_right fun ⟨hpending, claim, hmem, hflaw⟩ => ⟨hpending, claim, hmem, ?_⟩
  exact h.claimFlaw? hflaw

/-! ## Calls -/

/-- A call that replaces nothing is answered, and what it deletes is gone. -/
theorem Calls.answered {x : Answer q} (h : Calls q s x s') (hq : ∀ v, q ≠ .replaceVolume v) :
    ∃ (removed : List Target) (c : Cluster), Fewer s.cluster c ∧ x = (c.answer q).1 ∧
      s'.cluster = (c.answer q).2 ∧
      s'.events = .sent q.method q.target :: (removed.map .removed ++ s.events) := by
  obtain ⟨mid, hremovals, hsettles, hevents⟩ := h.settles
  obtain ⟨removed, hmid, -⟩ := hremovals.recorded
  rw [hmid] at hevents
  generalize hs' : s'.cluster = c' at hsettles
  cases hsettles with
  | answered => exact ⟨removed, mid.cluster, hremovals.fewer, rfl, rfl, hevents⟩
  | replaced => exact absurd rfl (hq _)
  | refused => exact absurd rfl (hq _)

/-- A lookup is answered from the cluster that it leaves. -/
theorem Calls.lookup {x : Answer q} (h : Calls q s x s') (hq : q.changes = false) :
    x = (s'.cluster.answer q).1 ∧ Wanes s.cluster s'.cluster ∧ ∃ removed : List Target,
      s'.events = .sent q.method q.target :: (removed.map .removed ++ s.events) := by
  have hne : ∀ v, q ≠ .replaceVolume v := by
    rintro v rfl
    cases hq
  obtain ⟨removed, c, hfewer, hx, hc, hevents⟩ := h.answered hne
  rw [answer_of_not_changes hq] at hc
  subst hc
  exact ⟨hx, hfewer.wanes, removed, hevents⟩

/-! ## The diagnosis -/

/-- What is detected is still there in the end, and what was there at the start is detected. -/
structure Detects (flawed : Cluster → Prop) (s : Scene) (detected : Prop) (s' : Scene) : Prop where
  still : detected → flawed s'.cluster
  already : flawed s.cluster → detected

theorem Detects.of_flawed {flawed : Cluster → Prop} {detected : Prop} (h : detected)
    (hthere : flawed s'.cluster) : Detects flawed s detected s' := ⟨fun _ => hthere, fun _ => h⟩

theorem Detects.of_not_flawed {flawed : Cluster → Prop} {detected : Prop} (h : ¬ detected)
    (hnot : ¬ flawed s.cluster) : Detects flawed s detected s' :=
  ⟨fun hd => absurd hd h, fun hthere => absurd hthere hnot⟩

section
variable {inNamespace claim volume name : String} {pod : Pod} {evictionLabel : Option String}

theorem volumeDefect?_ends {x : Attempt (Option Verdict)}
    (h : Runs Calls (volumeDefect? volume) s x s') :
    ∃ found, x = .ok found ∧ found ≠ some .healthy ∧ Wanes s.cluster s'.cluster ∧
      Detects (·.volumeFlaw? volume ≠ none) s (found ≠ none) s' := by
  unfold volumeDefect? at h
  obtain ⟨y, s₁, hcall, h⟩ := Plan.runs_bind.mp h
  obtain ⟨rfl, hwanes, -⟩ := (Plan.runs_request.mp hcall).lookup rfl
  dsimp only [Cluster.answer] at h
  cases hv : s₁.cluster.volumes.get? volume with
  | none =>
    rw [hv] at h
    obtain ⟨rfl, rfl⟩ := Plan.runs_done.mp h
    refine ⟨_, rfl, nofun, hwanes, .of_flawed nofun ?_⟩
    exact Cluster.volumeFlaw?_ne_none.mpr fun v hv' => absurd (hv.symm.trans hv') nofun
  | some v =>
    rw [hv] at h
    dsimp only at h
    cases hhost : v.requiredHost? with
    | none =>
      rw [hhost] at h
      obtain ⟨rfl, rfl⟩ := Plan.runs_done.mp h
      refine ⟨_, rfl, nofun, hwanes, .of_not_flawed (not_not.mpr rfl) fun hflaw => ?_⟩
      obtain ⟨host, hrequired, -⟩ :=
        Cluster.volumeFlaw?_ne_none.mp (hwanes.volumeFlaw? hflaw) v hv
      exact absurd (hhost.symm.trans hrequired) nofun
    | some host =>
      rw [hhost] at h
      obtain ⟨y, s₂, hcall, h⟩ := Plan.runs_bind.mp h
      obtain ⟨rfl, hwanes', -⟩ := (Plan.runs_request.mp hcall).lookup rfl
      dsimp only [Cluster.answer] at h
      cases hgone : s₂.cluster.hosts.get? host with
      | none =>
        rw [hgone] at h
        obtain ⟨rfl, rfl⟩ := Plan.runs_done.mp h
        refine ⟨_, rfl, nofun, hwanes.trans hwanes', .of_flawed nofun ?_⟩
        -- the volume may be gone by now, but it is not pinned to another host
        refine Cluster.volumeFlaw?_ne_none.mpr fun v' hv' => ?_
        obtain ⟨u, hu, hsame, -⟩ := hwanes'.volumes volume v' hv'
        obtain rfl := Option.some.inj (hu.symm.trans hv)
        exact ⟨host, hsame.trans hhost, hgone⟩
      | some there =>
        rw [hgone] at h
        obtain ⟨rfl, rfl⟩ := Plan.runs_done.mp h
        refine ⟨_, rfl, nofun, hwanes.trans hwanes',
          .of_not_flawed (not_not.mpr rfl) fun hflaw => ?_⟩
        obtain ⟨host', hrequired, hnone⟩ :=
          Cluster.volumeFlaw?_ne_none.mp (hwanes.volumeFlaw? hflaw) v hv
        obtain rfl := Option.some.inj (hhost.symm.trans hrequired)
        exact absurd (hgone.symm.trans (none_of_within hwanes'.hosts hnone)) nofun

theorem claimDefect?_ends {x : Attempt (Option Verdict)}
    (h : Runs Calls (claimDefect? inNamespace claim) s x s') :
    ∃ found, x = .ok found ∧ found ≠ some .healthy ∧ Wanes s.cluster s'.cluster ∧
      Detects (·.claimFlaw? inNamespace claim ≠ none) s (found ≠ none) s' := by
  unfold claimDefect? at h
  obtain ⟨y, s₁, hcall, h⟩ := Plan.runs_bind.mp h
  obtain ⟨rfl, hwanes, -⟩ := (Plan.runs_request.mp hcall).lookup rfl
  dsimp only [Cluster.answer] at h
  cases hk : s₁.cluster.claims.get? (inNamespace, claim) with
  | none =>
    rw [hk] at h
    obtain ⟨rfl, rfl⟩ := Plan.runs_done.mp h
    refine ⟨_, rfl, nofun, hwanes, .of_flawed nofun ?_⟩
    exact Cluster.claimFlaw?_ne_none.mpr fun k hk' => absurd (hk.symm.trans hk') nofun
  | some k =>
    rw [hk] at h
    dsimp only at h
    split at h
    · rename_i hbound
      cases hvolume : k.volume? with
      | none =>
        rw [hvolume] at h
        obtain ⟨rfl, rfl⟩ := Plan.runs_done.mp h
        refine ⟨_, rfl, nofun, hwanes, .of_not_flawed (not_not.mpr rfl) fun hflaw => ?_⟩
        obtain ⟨volume, hvolume', -⟩ :=
          (Cluster.claimFlaw?_ne_none.mp (hwanes.claimFlaw? hflaw) k hk).2 hbound
        exact absurd (hvolume.symm.trans hvolume') nofun
      | some volume =>
        rw [hvolume] at h
        obtain ⟨found, rfl, hne, hwanes', hdetects⟩ := volumeDefect?_ends h
        refine ⟨found, rfl, hne, hwanes.trans hwanes', fun hfound => ?_, fun hflaw => ?_⟩
        · refine Cluster.claimFlaw?_ne_none.mpr fun k' hk' => ?_
          obtain rfl := Option.some.inj (hk.symm.trans (hwanes'.claims _ k' hk'))
          exact ⟨by rw [hbound]; decide, fun _ => ⟨volume, hvolume, hdetects.still hfound⟩⟩
        · obtain ⟨volume', hvolume', hflaw⟩ :=
            (Cluster.claimFlaw?_ne_none.mp (hwanes.claimFlaw? hflaw) k hk).2 hbound
          obtain rfl := Option.some.inj (hvolume.symm.trans hvolume')
          exact hdetects.already hflaw
    · rename_i hpending
      obtain ⟨rfl, rfl⟩ := Plan.runs_done.mp h
      refine ⟨_, rfl, nofun, hwanes, .of_not_flawed (not_not.mpr rfl) fun hflaw => ?_⟩
      exact absurd hpending (Cluster.claimFlaw?_ne_none.mp (hwanes.claimFlaw? hflaw) k hk).1
    · rename_i hbound hpending
      obtain ⟨rfl, rfl⟩ := Plan.runs_done.mp h
      refine ⟨_, rfl, nofun, hwanes, .of_flawed nofun ?_⟩
      refine Cluster.claimFlaw?_ne_none.mpr fun k' hk' => ?_
      obtain rfl := Option.some.inj (hk.symm.trans hk')
      exact ⟨hpending, fun h => absurd h hbound⟩

theorem firstDefect_ends {claims : List String} {x : Attempt Verdict}
    (h : Runs Calls (firstDefect inNamespace claims) s x s') :
    ∃ verdict, x = .ok verdict ∧ Wanes s.cluster s'.cluster ∧
      Detects (fun c => ∃ claim ∈ claims, c.claimFlaw? inNamespace claim ≠ none) s
        (verdict ≠ .healthy) s' := by
  induction claims generalizing s with
  | nil =>
    obtain ⟨rfl, rfl⟩ := Plan.runs_done.mp h
    refine ⟨.healthy, rfl, .refl _, .of_not_flawed (not_not.mpr rfl) ?_⟩
    rintro ⟨claim, hmem, -⟩
    cases hmem
  | cons claim claims ih =>
    rw [firstDefect_cons, runs_andThen] at h
    rcases h with ⟨f, -, hclaim⟩ | ⟨found, s₁, hclaim, h⟩
    · obtain ⟨found, hfound, -⟩ := claimDefect?_ends hclaim
      cases hfound
    obtain ⟨_, hfound, hne, hwanes, hdetects⟩ := claimDefect?_ends hclaim
    obtain rfl := Except.ok.inj hfound
    cases found with
    | none =>
      obtain ⟨verdict, rfl, hwanes', hdetects'⟩ := ih h
      refine ⟨verdict, rfl, hwanes.trans hwanes', fun hill => ?_, ?_⟩
      · obtain ⟨claim', hmem, hflaw⟩ := hdetects'.still hill
        exact ⟨claim', List.mem_cons_of_mem _ hmem, hflaw⟩
      · rintro ⟨claim', hmem, hflaw⟩
        rcases List.mem_cons.mp hmem with rfl | hmem
        · exact absurd rfl (hdetects.already hflaw)
        · exact hdetects'.already ⟨claim', hmem, hwanes.claimFlaw? hflaw⟩
    | some verdict =>
      obtain ⟨rfl, rfl⟩ := Plan.runs_done.mp h
      refine ⟨verdict, rfl, hwanes, fun _ => ?_, fun _ hhealthy => hne (congrArg some hhealthy)⟩
      exact ⟨claim, List.mem_cons_self, hdetects.still nofun⟩

/-- The diagnosis detects that a pod needs recovery. -/
theorem diagnose_ends {x : Attempt Verdict} (h : Runs Calls (diagnose pod evictionLabel) s x s') :
    ∃ verdict, x = .ok verdict ∧ Wanes s.cluster s'.cluster ∧
      Detects (fun c => (c.verdict pod evictionLabel).needsRecovery = true) s
        (verdict ≠ .healthy) s' := by
  unfold diagnose at h
  split at h
  · rename_i hevicted
    obtain ⟨rfl, rfl⟩ := Plan.runs_done.mp h
    refine ⟨.evicted, rfl, .refl _, .of_flawed nofun ?_⟩
    exact Cluster.needsRecovery_verdict.mpr (Or.inl hevicted)
  · rename_i hevicted
    split at h
    · rename_i hpending
      obtain ⟨verdict, rfl, hwanes, hdetects⟩ := firstDefect_ends h
      refine ⟨verdict, rfl, hwanes, fun hill => ?_, fun hneeds => ?_⟩
      · exact Cluster.needsRecovery_verdict.mpr (Or.inr ⟨hpending, hdetects.still hill⟩)
      · rcases Cluster.needsRecovery_verdict.mp hneeds with h | ⟨-, hflaw⟩
        · exact absurd h hevicted
        · exact hdetects.already hflaw
    · rename_i hpending
      obtain ⟨rfl, rfl⟩ := Plan.runs_done.mp h
      refine ⟨.healthy, rfl, .refl _, .of_not_flawed (not_not.mpr rfl) fun hneeds => ?_⟩
      rcases Cluster.needsRecovery_verdict.mp hneeds with h | ⟨h, -⟩
      · exact absurd h hevicted
      · exact absurd h hpending

end

/-! ## The clean start -/

/-- The cluster wanes, and the volumes that were looked up meanwhile have no claims in the end. -/
structure Clears (s s' : Scene) : Prop where
  wanes : Wanes s.cluster s'.cluster
  freed : ∃ since, s'.events = since ++ s.events ∧
    ∀ volume, .sent .get (.volume volume) ∈ since → s'.cluster.Unclaimed volume

/-- The last request was to replace a volume that somebody had deleted since it was looked up, and
nothing was sent in between. -/
def EndsInRace (s s' : Scene) : Prop :=
  ∃ (volume : String) (between : List Target) (earlier : List Event), .volume volume ∈ between ∧
    s'.events = .sent .put (.volume volume) :: (between.map .removed ++
      .sent .get (.volume volume) :: (earlier ++ s.events))

/-- A part of a clean start has cleared up, or it was overtaken. -/
inductive StageEnds {α : Type} (post : α → Cluster → Prop) (s : Scene) :
    Attempt α → Scene → Prop where
  | cleared {a : α} {s' : Scene} (h : Clears s s') (hpost : post a s'.cluster) :
    StageEnds post s (.ok a) s'
  | overtaken {f : Fault} {s' : Scene} (hwanes : Wanes s.cluster s'.cluster)
    (hrace : EndsInRace s s') : StageEnds post s (.error f) s'

theorem Clears.refl (s : Scene) : Clears s s := ⟨.refl _, [], rfl, fun _ h => nomatch h⟩

theorem Clears.trans (h : Clears s s') (h' : Clears s' s'') : Clears s s'' := by
  obtain ⟨since, hevents, hfreed⟩ := h.freed
  obtain ⟨since', hevents', hfreed'⟩ := h'.freed
  refine ⟨h.wanes.trans h'.wanes, since' ++ since, by rw [hevents', hevents, List.append_assoc], ?_⟩
  intro volume hmem
  rcases List.mem_append.mp hmem with hmem | hmem
  · exact hfreed' volume hmem
  · exact h'.wanes.unclaimed (hfreed volume hmem)

theorem EndsInRace.after {since : List Event} (h : EndsInRace s' s'')
    (hevents : s'.events = since ++ s.events) : EndsInRace s s'' := by
  obtain ⟨volume, between, earlier, hmem, h⟩ := h
  refine ⟨volume, between, earlier ++ since, hmem, ?_⟩
  rw [h, hevents, List.append_assoc]

namespace StageEnds

variable {α β : Type} {mid : α → Cluster → Prop} {post : β → Cluster → Prop}

theorem wanes {x : Attempt β} (h : StageEnds post s x s') : Wanes s.cluster s'.cluster := by
  cases h with
  | cleared h => exact h.wanes
  | overtaken hwanes => exact hwanes

theorem mono {post' : β → Cluster → Prop} {x : Attempt β} (h : StageEnds post s x s')
    (himp : ∀ b, post b s'.cluster → post' b s'.cluster) : StageEnds post' s x s' := by
  cases h with
  | cleared h hpost => exact .cleared h (himp _ hpost)
  | overtaken hwanes hrace => exact .overtaken hwanes hrace

/-- After a part that has cleared up comes the next. -/
theorem after {x : Attempt β} (h : Clears s s') (h' : StageEnds post s' x s'') :
    StageEnds post s x s'' := by
  cases h' with
  | cleared h' hpost => exact .cleared (h.trans h') hpost
  | overtaken hwanes hrace =>
    obtain ⟨since, hevents, -⟩ := h.freed
    exact .overtaken (h.wanes.trans hwanes) (hrace.after hevents)

theorem andThen {p : Procedure (Attempt α)} {k : α → Procedure (Attempt β)} {x : Attempt β}
    (hp : ∀ y s₁, Runs Calls p s y s₁ → StageEnds mid s y s₁)
    (hk : ∀ a s₁, Wanes s.cluster s₁.cluster → mid a s₁.cluster →
      Runs Calls (k a) s₁ x s' → StageEnds post s₁ x s')
    (h : Runs Calls (Recovery.andThen p k) s x s') : StageEnds post s x s' := by
  rcases runs_andThen.mp h with ⟨f, rfl, hfails⟩ | ⟨a, s₁, hok, hrest⟩
  · cases hp _ _ hfails with
    | overtaken hwanes hrace => exact .overtaken hwanes hrace
  · cases hp _ _ hok with
    | cleared hclears hmid => exact after hclears (hk a s₁ hclears.wanes hmid hrest)

end StageEnds

section
variable {inNamespace name volume : String} {pod : Pod} {evictionLabel : Option String}

/-- A call that is not about a volume clears up. -/
theorem Calls.clears {x : Answer q} (h : Calls q s x s')
    (hq : ∀ volume, q.target ≠ .volume volume) : Clears s s' := by
  have hne : ∀ v, q ≠ .replaceVolume v := by
    rintro v rfl
    exact hq v.name rfl
  obtain ⟨removed, c, hfewer, -, hc, hevents⟩ := h.answered hne
  refine ⟨hc ▸ (hfewer.trans (fewer_answer hne)).wanes,
    .sent q.method q.target :: removed.map .removed, hevents, fun volume hmem => ?_⟩
  rcases List.mem_cons.mp hmem with heq | hmem
  · exact absurd (Event.sent.inj heq).2.symm (hq volume)
  · obtain ⟨t, -, ht⟩ := List.mem_map.mp hmem
    cases ht

/-- Each of the claims is found, or else it stays missing. -/
theorem findClaims_ends {names : List String} {x : Attempt (List Claim)}
    (h : Runs Calls (findClaims inNamespace names) s x s') :
    StageEnds (fun claims c => ∀ name ∈ names, c.claims.get? (inNamespace, name) = none ∨
      ∃ claim ∈ claims, claim.metadata.nameOrEmpty = name) s x s' := by
  induction names generalizing s s' x with
  | nil =>
    obtain ⟨rfl, rfl⟩ := Plan.runs_done.mp h
    exact .cleared (.refl _) fun _ h => nomatch h
  | cons name names ih =>
    have hask (y : Attempt (Option Claim)) (s₁ : Scene)
        (h : Runs Calls (ask (.getClaim inNamespace name)) s y s₁) :
        StageEnds (fun found c => c.claims.get? (inNamespace, name) = none ∨
          ∃ claim, found = some claim ∧ claim.metadata.nameOrEmpty = name) s y s₁ := by
      have hcall : Calls (.getClaim inNamespace name) s y s₁ := Plan.runs_request.mp h
      obtain ⟨rfl, -, -⟩ := hcall.lookup rfl
      refine .cleared (hcall.clears fun _ => nofun) ?_
      cases hk : s₁.cluster.claims.get? (inNamespace, name) with
      | none => exact Or.inl rfl
      | some claim => exact Or.inr ⟨claim, rfl, (hcall.sound'.claims _ _ claim hk).name⟩
    rw [findClaims_cons] at h
    refine StageEnds.andThen hask (fun found s₁ _ hfound hrest => ?_) h
    refine StageEnds.andThen (fun y s₂ => ih) (fun claims s₂ hwanes hclaims hdone => ?_) hrest
    obtain ⟨rfl, rfl⟩ := Plan.runs_done.mp hdone
    refine .cleared (.refl _) fun name' hmem => ?_
    rcases List.mem_cons.mp hmem with rfl | hmem
    · rcases hfound with hnone | ⟨claim, rfl, hname⟩
      · exact Or.inl (none_of_within hwanes.claims hnone)
      · exact Or.inr ⟨claim, List.mem_append_left _ List.mem_cons_self, hname⟩
    · rcases hclaims name' hmem with hnone | ⟨claim, hclaim, hname⟩
      · exact Or.inl hnone
      · exact Or.inr ⟨claim, List.mem_append_right _ hclaim, hname⟩

theorem wanes_putVolume {v w : Volume} (h : Fewer c c') (hv : c.volumes.get? w.name = some v)
    (hhost : w.requiredHost? = v.requiredHost?) (hclaim : w.claimRef? = none) :
    Wanes c (c'.putVolume w) := by
  refine ⟨h.pods, h.claims, fun volume u hu => ?_, h.hosts⟩
  rw [Cluster.putVolume, Table.get?_insert] at hu
  split at hu
  · rename_i hname
    obtain rfl := Option.some.inj hu
    exact ⟨v, hname ▸ hv, hhost, fun _ => hclaim⟩
  · exact ⟨u, h.volumes volume u hu, rfl, id⟩

/-- A volume that was just looked up is replaced without its claim, unless it is gone by now. -/
theorem replaceVolume_ends {v : Volume} {x : Attempt Unit}
    (h : Calls (.replaceVolume v.unclaimed) s x s') (hv : s.cluster.volumes.get? v.name = some v) :
    Wanes s.cluster s'.cluster ∧ ∃ between : List Target,
      s'.events = .sent .put (.volume v.name) :: (between.map .removed ++ s.events) ∧
        ((x = .ok () ∧ s'.cluster.Unclaimed v.name) ∨
          ∃ f, x = .error f ∧ .volume v.name ∈ between) := by
  obtain ⟨mid, hremovals, hsettles, hevents⟩ := h.settles
  obtain ⟨between, hmid, hremoved⟩ := hremovals.recorded
  have hfewer := hremovals.fewer
  rw [hmid] at hevents
  generalize hs' : s'.cluster = c' at hsettles
  cases hsettles with
  | answered hne => exact absurd rfl (hne _)
  | @replaced _ kept version hkept hversion =>
    have hclaim : (v.unclaimed.withVersion version).claimRef? = none := v.claimRef?_unclaimed
    refine ⟨wanes_putVolume hfewer hv v.requiredHost?_unclaimed hclaim, between, hevents,
      Or.inl ⟨rfl, fun u hu => ?_⟩⟩
    obtain rfl := Option.some.inj ((Table.get?_insert_self _ _ _).symm.trans hu)
    exact hclaim
  | @refused _ f hstale =>
    refine ⟨hfewer.wanes, between, hevents, Or.inr ⟨f, rfl, hremoved _ ?_ fun hheld => ?_⟩⟩
    · exact fun hnone => nomatch hv.symm.trans hnone
    · -- what is kept is what was looked up, as nobody else replaces anything
      obtain ⟨kept, hkept⟩ := Option.ne_none_iff_exists'.mp hheld
      obtain rfl := Option.some.inj ((hfewer.volumes _ kept hkept).symm.trans hv)
      exact hstale kept hkept rfl

theorem detach_ends {x : Attempt Unit} (h : Runs Calls (detach volume) s x s') :
    StageEnds (fun _ _ => True) s x s' := by
  unfold detach at h
  obtain ⟨y, s₁, hcall, hrest⟩ := Plan.runs_bind.mp h
  have hcall : Calls (.getVolume volume) s y s₁ := Plan.runs_request.mp hcall
  obtain ⟨rfl, hwanes, removed, hlookup⟩ := hcall.lookup rfl
  have hevents : s₁.events = .sent .get (.volume volume) :: (removed.map .removed ++ s.events) :=
    hlookup
  dsimp only [Cluster.answer] at hrest
  have hlooked (hfree : s₁.cluster.Unclaimed volume) : Clears s s₁ := by
    refine ⟨hwanes, .sent .get (.volume volume) :: removed.map .removed, hevents, fun u hu => ?_⟩
    obtain rfl : u = volume := by simpa using hu
    exact hfree
  cases hv : s₁.cluster.volumes.get? volume with
  | none =>
    rw [hv] at hrest
    obtain ⟨rfl, rfl⟩ := Plan.runs_done.mp hrest
    exact .cleared (hlooked fun v hv' => nomatch hv.symm.trans hv') trivial
  | some v =>
    rw [hv] at hrest
    dsimp only at hrest
    split at hrest
    · obtain rfl : v.name = volume := (hcall.sound'.volumes _ v hv).name
      have hput : Calls (.replaceVolume v.unclaimed) s₁ x s' := Plan.runs_request.mp hrest
      obtain ⟨hwanes', between, hevents', hends⟩ := replaceVolume_ends hput hv
      rw [hevents] at hevents'
      rcases hends with ⟨rfl, hfree⟩ | ⟨f, rfl, hgone⟩
      · have hsince : s'.events = (.sent .put (.volume v.name) :: (between.map .removed ++
            .sent .get (.volume v.name) :: removed.map .removed)) ++ s.events := by
          simpa using hevents'
        refine .cleared ⟨hwanes.trans hwanes', _, hsince, fun u hu => ?_⟩ trivial
        obtain rfl : u = v.name := by simpa using hu
        exact hfree
      · exact .overtaken (hwanes.trans hwanes')
          ⟨v.name, between, removed.map .removed, hgone, hevents'⟩
    · rename_i hunclaimed
      obtain ⟨rfl, rfl⟩ := Plan.runs_done.mp hrest
      refine .cleared (hlooked fun v' hv' => ?_) trivial
      obtain rfl := Option.some.inj (hv.symm.trans hv')
      exact Option.not_isSome_iff_eq_none.mp hunclaimed

theorem forAll_ends {β : Type} {step : β → Procedure (Attempt Unit)} {P : β → Cluster → Prop}
    {bs : List β} {x : Attempt Unit}
    (hstep : ∀ b s x s', Runs Calls (step b) s x s' → StageEnds (fun _ => P b) s x s')
    (hkept : ∀ b c c', Wanes c c' → P b c → P b c')
    (h : Runs Calls (forAll step bs) s x s') :
    StageEnds (fun _ c => ∀ b ∈ bs, P b c) s x s' := by
  induction bs generalizing s with
  | nil =>
    obtain ⟨rfl, rfl⟩ := Plan.runs_done.mp h
    exact .cleared (.refl _) fun _ h => nomatch h
  | cons b bs ih =>
    rw [forAll_cons] at h
    refine StageEnds.andThen (hstep b s) (fun _ s₁ _ hb hrest => ?_) h
    have hends := ih hrest
    refine hends.mono fun _ hbs => List.forall_mem_cons.mpr ⟨?_, hbs⟩
    exact hkept b _ _ hends.wanes hb

theorem deleteClaim_ends {x : Attempt Unit}
    (h : Runs Calls (ask (.deleteClaim inNamespace name)) s x s') :
    StageEnds (fun _ c => c.claims.get? (inNamespace, name) = none) s x s' := by
  have hcall : Calls (.deleteClaim inNamespace name) s x s' := Plan.runs_request.mp h
  obtain ⟨-, c, -, rfl, hc, -⟩ := hcall.answered fun _ => nofun
  refine .cleared (hcall.clears fun _ => nofun) ?_
  rw [hc]
  exact Table.get?_erase_self _ _

theorem deletePod_ends {x : Attempt Unit}
    (h : Runs Calls (ask (.deletePod inNamespace name)) s x s') :
    StageEnds (fun _ c => c.pods.get? (inNamespace, name) = none) s x s' := by
  have hcall : Calls (.deletePod inNamespace name) s x s' := Plan.runs_request.mp h
  obtain ⟨-, c, -, rfl, hc, -⟩ := hcall.answered fun _ => nofun
  refine .cleared (hcall.clears fun _ => nofun) ?_
  rw [hc]
  exact Table.get?_erase_self _ _

/-- A clean start that is not overtaken leaves neither the pod nor a claim that it mounts. -/
theorem startOver_ends {x : Attempt Unit} (h : Runs Calls (startOver pod) s x s') :
    StageEnds (fun _ c =>
      c.pods.get? (pod.metadata.namespaceOrEmpty, pod.metadata.nameOrEmpty) = none ∧
        ∀ name ∈ pod.mountedClaims, c.claims.get? (pod.metadata.namespaceOrEmpty, name) = none)
      s x s' := by
  rw [startOver_eq] at h
  refine StageEnds.andThen (fun _ _ => findClaims_ends) (fun claims s₁ _ hfound h => ?_) h
  refine StageEnds.andThen (fun _ _ => forAll_ends (fun _ _ _ _ => detach_ends)
    fun _ _ _ _ _ => trivial) (fun _ s₂ hwanes₂ _ h => ?_) h
  have hkept (claim : Claim) (c c' : Cluster) (hwanes : Wanes c c')
      (hgone : c.claims.get? (pod.metadata.namespaceOrEmpty, claim.metadata.nameOrEmpty) = none) :
      c'.claims.get? (pod.metadata.namespaceOrEmpty, claim.metadata.nameOrEmpty) = none :=
    none_of_within hwanes.claims hgone
  refine StageEnds.andThen (fun _ _ => forAll_ends (fun _ _ _ _ => deleteClaim_ends) hkept)
    (fun _ s₃ hwanes₃ hdeleted h => ?_) h
  have hends := deletePod_ends h
  refine hends.mono fun _ hpod => ⟨hpod, fun name hname => ?_⟩
  rcases hfound name hname with hnone | ⟨claim, hclaim, rfl⟩
  · exact none_of_within ((hwanes₂.trans hwanes₃).trans hends.wanes).claims hnone
  · exact none_of_within hends.wanes.claims (hdeleted claim hclaim)

/-! ## The halves of a recovery -/

/-- Nothing is taken off the record. -/
theorem events_suffix {α : Type} {p : Procedure α} {a : α} (h : Runs Calls p s a s') :
    s.events <:+ s'.events := by
  induction h with
  | done a s => exact List.suffix_refl _
  | ask hcall hrest ih =>
    obtain ⟨mid, hremovals, -, hevents⟩ := hcall.settles
    obtain ⟨removed, hmid, -⟩ := hremovals.recorded
    rw [hmid] at hevents
    exact (hevents ▸ (List.suffix_append _ _).trans (List.suffix_cons _ _)).trans ih

theorem assess_ends {x : Attempt (Option (Pod × Verdict))}
    (h : Runs Calls (assess evictionLabel inNamespace name) s x s') :
    ∃ found, x = .ok found ∧ Wanes s.cluster s'.cluster ∧ ∀ pod verdict,
      found = some (pod, verdict) → s.cluster.pods.get? (inNamespace, name) = some pod ∧
        Detects (fun c => (c.verdict pod evictionLabel).needsRecovery = true) s
          (verdict ≠ .healthy) s' := by
  unfold assess at h
  obtain ⟨y, s₁, hcall, h⟩ := Plan.runs_bind.mp h
  have hcall : Calls (.getPod inNamespace name) s y s₁ := Plan.runs_request.mp hcall
  obtain ⟨rfl, hwanes, -⟩ := hcall.lookup rfl
  dsimp only [Cluster.answer] at h
  cases hpod : s₁.cluster.pods.get? (inNamespace, name) with
  | none =>
    rw [hpod] at h
    obtain ⟨rfl, rfl⟩ := Plan.runs_done.mp h
    exact ⟨none, rfl, hwanes, fun _ _ h => nomatch h⟩
  | some pod =>
    rw [hpod] at h
    obtain ⟨z, s₂, hdiagnose, h⟩ := Plan.runs_bind.mp h
    obtain ⟨verdict, rfl, hwanes', hdetects⟩ := diagnose_ends hdiagnose
    obtain ⟨rfl, rfl⟩ := Plan.runs_done.mp h
    refine ⟨_, rfl, hwanes.trans hwanes', fun pod' verdict' hfound => ?_⟩
    cases hfound
    exact ⟨hwanes.pods _ pod hpod, hdetects.still, fun hneeds =>
      hdetects.already (hwanes.needsRecovery hneeds)⟩

theorem treat_ends {found : Option (Pod × Verdict)} {x : Attempt Verdict}
    (hfound : ∀ pod verdict, found = some (pod, verdict) → pod.IsEntry inNamespace name)
    (h : Runs Calls (treat inNamespace name found) s x s') :
    StageEnds (fun outcome c => ∀ pod verdict, found = some (pod, verdict) → outcome = verdict ∧
      (verdict ≠ .healthy → c.pods.get? (inNamespace, name) = none ∧
        ∀ claim ∈ pod.mountedClaims, c.claims.get? (inNamespace, claim) = none)) s x s' := by
  cases found with
  | none =>
    obtain ⟨rfl, rfl⟩ := Plan.runs_done.mp h
    exact .cleared (.refl _) fun _ _ h => nomatch h
  | some judged =>
    obtain ⟨pod, verdict⟩ := judged
    obtain ⟨rfl, rfl, -, -⟩ := hfound pod verdict rfl
    dsimp only [treat] at h
    split at h
    · obtain ⟨y, s₁, hstart, h⟩ := Plan.runs_bind.mp h
      cases startOver_ends hstart with
      | cleared hclears hgone =>
        obtain ⟨rfl, rfl⟩ := Plan.runs_done.mp h
        refine .cleared hclears fun pod' verdict' hsame => ?_
        cases hsame
        exact ⟨rfl, fun _ => hgone⟩
      | overtaken hwanes hrace =>
        obtain ⟨rfl, rfl⟩ := Plan.runs_done.mp h
        exact .overtaken hwanes hrace
    · rename_i hwell
      obtain ⟨rfl, rfl⟩ := Plan.runs_done.mp h
      refine .cleared (.refl _) fun pod' verdict' hsame => ?_
      cases hsame
      exact ⟨rfl, fun hill => absurd (decide_eq_true hill) hwell⟩

end

end RingKeeper.Recovery
