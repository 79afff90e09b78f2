import RingKeeper.Proofs.Bootstrap.Stages

/-!
# The exits of a decision

How a node's decision to replace its earlier self comes to its end, in any surroundings.

1. `HasOld` is an address that the registry has for the node and that makes it look further.
2. `ProbeEnds` and `ShutDownEnds` list how the node at that address is looked at, and how it is shut
   down.
3. `DecisionEnds` lists the exits of the decision. These are all (`decisionEnds_of_runs`), and each
   of them can be taken (`DecisionEnds.runs`).
4. `onlyAsks_markReplacement` is what a decision may ask for.
-/

namespace RingKeeper.Bootstrap

open Plan (OnlyAsks Runs)

/-- The registry has an old address of the node: one that is not empty, and not its address now. -/
def HasOld (b : Bootstrap) (c : ConfigMap) (oldIp : String) : Prop :=
  c.dataAt? b.settings.podName = some oldIp ∧ oldIp ≠ "" ∧ oldIp ≠ b.settings.podIp

variable {S : Type} {react : (q : Question) → S → Answer q → S → Prop} {b : Bootstrap}
  {oldIp : String} {s s' : S}

/-! ## The probe -/

/-- How the node at the old address is looked at, and whether it was found to be reachable, up and
normal, and gossiping. -/
inductive ProbeEnds (react : (q : Question) → S → Answer q → S → Prop) (oldIp : String) (s : S) :
    Bool → S → Prop where
  | unreachable {f : Fault} {s' : S} (hconnect : react (.connect oldIp) s (.error f) s') :
    ProbeEnds react oldIp s false s'
  | silent {f : Fault} {s₁ s' : S} (hconnect : react (.connect oldIp) s (.ok ()) s₁)
    (hstatus : react (.command (.peer oldIp) Admin.statusCommand) s₁ (.error f) s') :
    ProbeEnds react oldIp s false s'
  | notNormal {report : String} {s₁ s' : S} (hconnect : react (.connect oldIp) s (.ok ()) s₁)
    (hstatus : react (.command (.peer oldIp) Admin.statusCommand) s₁ (.ok report) s')
    (hreport : (Ring.ofText report).isUpAndNormal oldIp = false) :
    ProbeEnds react oldIp s false s'
  | quiet {report : String} {x : Attempt String} {s₁ s₂ s' : S}
    (hconnect : react (.connect oldIp) s (.ok ()) s₁)
    (hstatus : react (.command (.peer oldIp) Admin.statusCommand) s₁ (.ok report) s₂)
    (hreport : (Ring.ofText report).isUpAndNormal oldIp = true)
    (hinfo : react (.command (.peer oldIp) Admin.infoCommand) s₂ x s')
    (hquiet : Admin.gossipOf x ≠ .ok true) : ProbeEnds react oldIp s false s'
  | alive {report : String} {x : Attempt String} {s₁ s₂ s' : S}
    (hconnect : react (.connect oldIp) s (.ok ()) s₁)
    (hstatus : react (.command (.peer oldIp) Admin.statusCommand) s₁ (.ok report) s₂)
    (hreport : (Ring.ofText report).isUpAndNormal oldIp = true)
    (hinfo : react (.command (.peer oldIp) Admin.infoCommand) s₂ x s')
    (hgossip : Admin.gossipOf x = .ok true) : ProbeEnds react oldIp s true s'

theorem probeEnds_of_runs {found : Bool} (h : Runs react (isOldNodeAlive oldIp) s found s') :
    ProbeEnds react oldIp s found s' := by
  unfold isOldNodeAlive at h
  obtain ⟨connected, s₁, hconnect, h⟩ := Plan.runs_bind.mp h
  replace hconnect := Plan.runs_request.mp hconnect
  cases connected with
  | error f =>
    obtain ⟨rfl, rfl⟩ := Plan.runs_done.mp h
    exact .unreachable hconnect
  | ok u =>
    obtain ⟨status, s₂, hstatus, h⟩ := Plan.runs_bind.mp h
    replace hstatus := Plan.runs_request.mp hstatus
    cases status with
    | error f =>
      obtain ⟨rfl, rfl⟩ := Plan.runs_done.mp h
      exact .silent hconnect hstatus
    | ok report =>
      dsimp only [Admin.ringOf] at h
      split at h
      · rename_i hreport
        obtain ⟨x, s₃, hinfo, h⟩ := Plan.runs_bind.mp h
        replace hinfo := Plan.runs_request.mp hinfo
        cases hgossip : Admin.gossipOf x with
        | error f =>
          rw [hgossip] at h
          obtain ⟨rfl, rfl⟩ := Plan.runs_done.mp h
          exact .quiet hconnect hstatus hreport hinfo (by rw [hgossip]; exact nofun)
        | ok active =>
          rw [hgossip] at h
          obtain ⟨rfl, rfl⟩ := Plan.runs_done.mp h
          cases found with
          | true => exact .alive hconnect hstatus hreport hinfo hgossip
          | false => exact .quiet hconnect hstatus hreport hinfo (by rw [hgossip]; exact nofun)
      · rename_i hreport
        obtain ⟨rfl, rfl⟩ := Plan.runs_done.mp h
        exact .notNormal hconnect hstatus (Bool.eq_false_iff.mpr hreport)

theorem ProbeEnds.runs {found : Bool} (h : ProbeEnds react oldIp s found s') :
    Runs react (isOldNodeAlive oldIp) s found s' := by
  cases h with
  | unreachable hconnect =>
    exact .ask hconnect (.done _ _)
  | silent hconnect hstatus =>
    exact .ask hconnect (.ask hstatus (.done _ _))
  | @notNormal report s₁ _ hconnect hstatus hreport =>
    refine .ask hconnect (.ask hstatus ?_)
    show Runs react (if (Ring.ofText report).isUpAndNormal oldIp = true then _ else _) s' false s'
    rw [if_neg (Bool.eq_false_iff.mp hreport)]
    exact .done _ _
  | @quiet report x s₁ s₂ _ hconnect hstatus hreport hinfo hquiet =>
    refine .ask hconnect (.ask hstatus ?_)
    show Runs react (if (Ring.ofText report).isUpAndNormal oldIp = true then _ else _) s₂ false s'
    rw [if_pos hreport]
    refine Plan.runs_bind.mpr ⟨x, s', Plan.runs_request.mpr hinfo, ?_⟩
    rcases hgossip : Admin.gossipOf x with f | _ | _
    · exact .done _ _
    · exact .done _ _
    · exact absurd hgossip hquiet
  | @alive report x s₁ s₂ _ hconnect hstatus hreport hinfo hgossip =>
    refine .ask hconnect (.ask hstatus ?_)
    show Runs react (if (Ring.ofText report).isUpAndNormal oldIp = true then _ else _) s₂ true s'
    rw [if_pos hreport]
    refine Plan.runs_bind.mpr ⟨x, s', Plan.runs_request.mpr hinfo, ?_⟩
    rw [hgossip]
    exact .done _ _

/-- How the old node is shut down: as far as it can be reached, it is drained and then taken out of
the ring, whatever it answers. -/
inductive ShutDownEnds (react : (q : Question) → S → Answer q → S → Prop) (oldIp : String) (s : S) :
    S → Prop where
  | unreachable {f : Fault} {s' : S} (hconnect : react (.connect oldIp) s (.error f) s') :
    ShutDownEnds react oldIp s s'
  | told {drained left : Attempt String} {s₁ s₂ s' : S}
    (hconnect : react (.connect oldIp) s (.ok ()) s₁)
    (hdrain : react (.command (.peer oldIp) Admin.drainCommand) s₁ drained s₂)
    (hleave : react (.command (.peer oldIp) Admin.disableGossipCommand) s₂ left s') :
    ShutDownEnds react oldIp s s'

theorem shutDownEnds_of_runs {u : Unit} (h : Runs react (shutDownOldNode oldIp) s u s') :
    ShutDownEnds react oldIp s s' := by
  unfold shutDownOldNode at h
  obtain ⟨connected, s₁, hconnect, h⟩ := Plan.runs_bind.mp h
  replace hconnect := Plan.runs_request.mp hconnect
  cases connected with
  | error f =>
    obtain ⟨-, rfl⟩ := Plan.runs_done.mp h
    exact .unreachable hconnect
  | ok u =>
    obtain ⟨drained, s₂, hdrain, h⟩ := Plan.runs_bind.mp h
    obtain ⟨left, s₃, hleave, h⟩ := Plan.runs_bind.mp h
    obtain ⟨-, rfl⟩ := Plan.runs_done.mp h
    exact .told hconnect (Plan.runs_request.mp hdrain) (Plan.runs_request.mp hleave)

theorem ShutDownEnds.runs (h : ShutDownEnds react oldIp s s') :
    Runs react (shutDownOldNode oldIp) s () s' := by
  cases h with
  | unreachable hconnect => exact .ask hconnect (.done _ _)
  | told hconnect hdrain hleave => exact .ask hconnect (.ask hdrain (.ask hleave (.done _ _)))

/-- No live node was found at the old address; it was only looked for if the settings say so. -/
inductive FindsNobody (react : (q : Question) → S → Answer q → S → Prop) (b : Bootstrap)
    (oldIp : String) (s : S) : S → Prop where
  | unasked (hsettings : b.settings.shutdownOldNode = false) : FindsNobody react b oldIp s s
  | probed {s' : S} (hsettings : b.settings.shutdownOldNode = true)
    (hprobe : ProbeEnds react oldIp s false s') : FindsNobody react b oldIp s s'

theorem runs_findOldNode {found : Bool} (h : Runs react (b.findOldNode oldIp) s found s') :
    (found = true ∧ b.settings.shutdownOldNode = true ∧ ProbeEnds react oldIp s true s') ∨
      (found = false ∧ FindsNobody react b oldIp s s') := by
  unfold findOldNode at h
  cases hsettings : b.settings.shutdownOldNode with
  | true =>
    rw [hsettings, if_pos rfl] at h
    have hprobe := probeEnds_of_runs h
    cases found with
    | true => exact Or.inl ⟨rfl, rfl, hprobe⟩
    | false => exact Or.inr ⟨rfl, .probed hsettings hprobe⟩
  | false =>
    rw [hsettings, if_neg Bool.false_ne_true] at h
    obtain ⟨rfl, rfl⟩ := Plan.runs_done.mp h
    exact Or.inr ⟨rfl, .unasked hsettings⟩

theorem FindsNobody.runs (h : FindsNobody react b oldIp s s') :
    Runs react (b.findOldNode oldIp) s false s' := by
  unfold findOldNode
  cases h with
  | unasked hsettings =>
    rw [if_neg (Bool.eq_false_iff.mp hsettings)]
    exact .done _ _
  | probed hsettings hprobe =>
    rw [if_pos hsettings]
    exact hprobe.runs

/-! ## The decision -/

/-- A node has bootstrapped exactly if its data directory is found. -/
theorem runs_isBootstrapped {bootstrapped : Bool} :
    Runs react b.isBootstrapped s bootstrapped s' ↔ ∃ found,
      react (.lookUp b.settings.systemDataDir) s found s' ∧
        (bootstrapped = true ↔ found = .present) := by
  unfold isBootstrapped
  rw [Plan.runs_bind]
  constructor
  · rintro ⟨found, s₁, hlook, h⟩
    replace hlook := Plan.runs_request.mp hlook
    cases found <;>
    · obtain ⟨rfl, rfl⟩ := Plan.runs_done.mp h
      exact ⟨_, hlook, by simp⟩
  · rintro ⟨found, hlook, hfound⟩
    refine ⟨found, s', Plan.runs_request.mpr hlook, ?_⟩
    cases bootstrapped <;> cases found <;> first | exact .done _ _ | simp at hfound

/-- How a node ends that has found nobody alive at its old address: it has bootstrapped already, or
it marks the address, as far as the marker can be written. -/
inductive MarkEnds (react : (q : Question) → S → Answer q → S → Prop) (b : Bootstrap)
    (oldIp : String) (s : S) : Attempt Bool → S → Prop where
  | bootstrapped {s' : S} (hlook : react (.lookUp b.settings.systemDataDir) s .present s') :
    MarkEnds react b oldIp s (.ok false) s'
  | unopened {found : Lookup} {root : String} {s₁ s' : S}
    (hlook : react (.lookUp b.settings.systemDataDir) s found s₁) (hnew : found ≠ .present)
    (hwrite : react (.overwrite b.settings.replaceIpFile oldIp) s₁ (.error (.unopened root)) s') :
    MarkEnds react b oldIp s
      (.error (.causedBy (.message s!"failed to open {b.settings.replaceIpFile}") root)) s'
  | unwritten {found : Lookup} {text : String} {s₁ s' : S}
    (hlook : react (.lookUp b.settings.systemDataDir) s found s₁) (hnew : found ≠ .present)
    (hwrite : react (.overwrite b.settings.replaceIpFile oldIp) s₁ (.error (.unwritten text)) s') :
    MarkEnds react b oldIp s (.error (.ofKind (.io text))) s'
  | marked {found : Lookup} {s₁ s' : S}
    (hlook : react (.lookUp b.settings.systemDataDir) s found s₁) (hnew : found ≠ .present)
    (hwrite : react (.overwrite b.settings.replaceIpFile oldIp) s₁ (.ok ()) s') :
    MarkEnds react b oldIp s (.ok true) s'

/-- The exits of a decision. -/
inductive DecisionEnds (react : (q : Question) → S → Answer q → S → Prop) (b : Bootstrap) (s : S) :
    Attempt Bool → S → Prop where
  | unread {f : Fault} {s' : S} (hread : react (.store (.get b.registry.name)) s (.error f) s') :
    DecisionEnds react b s (.error f) s'
  | nobody {c : ConfigMap} {s' : S} (hread : react (.store (.get b.registry.name)) s (.ok c) s')
    (hnobody : ∀ oldIp, ¬ b.HasOld c oldIp) : DecisionEnds react b s (.ok false) s'
  | alive {c : ConfigMap} {oldIp : String} {s₁ s₂ s' : S}
    (hread : react (.store (.get b.registry.name)) s (.ok c) s₁) (hold : b.HasOld c oldIp)
    (hsettings : b.settings.shutdownOldNode = true) (hprobe : ProbeEnds react oldIp s₁ true s₂)
    (hdown : ShutDownEnds react oldIp s₂ s') :
    DecisionEnds react b s (.error (.ofKind (.oldNodeStillRunning oldIp))) s'
  | gone {c : ConfigMap} {oldIp : String} {a : Attempt Bool} {s₁ s₂ s' : S}
    (hread : react (.store (.get b.registry.name)) s (.ok c) s₁) (hold : b.HasOld c oldIp)
    (hfind : FindsNobody react b oldIp s₁ s₂) (hmark : MarkEnds react b oldIp s₂ a s') :
    DecisionEnds react b s a s'

/-- The address that is looked up is the one that was read, if it is not empty. -/
theorem runs_lookUp {x : Attempt (Option String)} :
    Runs react (inStore (b.registry.addressOf b.settings.podName)) s x s' ↔
      (∃ f, x = .error f ∧ react (.store (.get b.registry.name)) s (.error f) s') ∨
      ∃ c, x = .ok ((c.dataAt? b.settings.podName).filter fun ip => !ip.isEmpty) ∧
        react (.store (.get b.registry.name)) s (.ok c) s' := by
  rw [runs_inStore]
  unfold Registry.addressOf
  rw [Plan.runs_bind]
  constructor
  · rintro ⟨y, s₁, hread, h⟩
    replace hread := Plan.runs_request.mp hread
    cases y with
    | error f =>
      obtain ⟨rfl, rfl⟩ := Plan.runs_done.mp h
      exact Or.inl ⟨f, rfl, hread⟩
    | ok c =>
      obtain ⟨rfl, rfl⟩ := Plan.runs_done.mp h
      exact Or.inr ⟨c, rfl, hread⟩
  · rintro (⟨f, rfl, hread⟩ | ⟨c, rfl, hread⟩)
    · exact ⟨.error f, s', Plan.runs_request.mpr hread, .done _ _⟩
    · exact ⟨.ok c, s', Plan.runs_request.mpr hread, .done _ _⟩

/-- What is looked up is an old address exactly if it is not the node's own. -/
theorem hasOld_iff {c : ConfigMap} :
    b.HasOld c oldIp ↔
      ((c.dataAt? b.settings.podName).filter fun ip => !ip.isEmpty) = some oldIp ∧
        oldIp ≠ b.settings.podIp := by
  rw [Option.filter_eq_some_iff]
  simp [HasOld, and_assoc]

theorem markEnds_of_runs {a : Attempt Bool}
    (h : Runs react (do
      if ← b.isBootstrapped then return .ok false
      else
        match ← b.writeMarker oldIp with
        | .error f => return .error f
        | .ok () => return .ok true) s a s') :
    MarkEnds react b oldIp s a s' := by
  obtain ⟨bootstrapped, s₁, hbootstrapped, h⟩ := Plan.runs_bind.mp h
  obtain ⟨found, hlook, hfound⟩ := runs_isBootstrapped.mp hbootstrapped
  cases bootstrapped with
  | true =>
    obtain ⟨rfl, rfl⟩ := Plan.runs_done.mp h
    obtain rfl := hfound.mp rfl
    exact .bootstrapped hlook
  | false =>
    have hnew : found ≠ .present := fun hpresent => nomatch hfound.mpr hpresent
    obtain ⟨x, s₂, hmark, h⟩ := Plan.runs_bind.mp h
    obtain ⟨y, s₃, hwrite, hmark⟩ := Plan.runs_bind.mp hmark
    replace hwrite := Plan.runs_request.mp hwrite
    rcases y with (root | text) | u
    · obtain ⟨rfl, rfl⟩ := Plan.runs_done.mp hmark
      obtain ⟨rfl, rfl⟩ := Plan.runs_done.mp h
      exact .unopened hlook hnew hwrite
    · obtain ⟨rfl, rfl⟩ := Plan.runs_done.mp hmark
      obtain ⟨rfl, rfl⟩ := Plan.runs_done.mp h
      exact .unwritten hlook hnew hwrite
    · obtain ⟨rfl, rfl⟩ := Plan.runs_done.mp hmark
      obtain ⟨rfl, rfl⟩ := Plan.runs_done.mp h
      exact .marked hlook hnew hwrite

theorem decisionEnds_of_runs {a : Attempt Bool} (h : Runs react b.markReplacement s a s') :
    DecisionEnds react b s a s' := by
  unfold markReplacement at h
  obtain ⟨x, s₁, hlookup, h⟩ := Plan.runs_bind.mp h
  rcases runs_lookUp.mp hlookup with ⟨f, rfl, hread⟩ | ⟨c, rfl, hread⟩
  · obtain ⟨rfl, rfl⟩ := Plan.runs_done.mp h
    exact .unread hread
  cases hentry : (c.dataAt? b.settings.podName).filter fun ip => !ip.isEmpty with
  | none =>
    rw [hentry] at h
    obtain ⟨rfl, rfl⟩ := Plan.runs_done.mp h
    refine .nobody hread fun oldIp hold => ?_
    rw [(hasOld_iff.mp hold).1] at hentry
    cases hentry
  | some oldIp =>
    rw [hentry] at h
    dsimp only at h
    split at h
    · rename_i hown
      obtain ⟨rfl, rfl⟩ := Plan.runs_done.mp h
      refine .nobody hread fun oldIp' hold => ?_
      obtain ⟨hentry', hne⟩ := hasOld_iff.mp hold
      rw [hentry] at hentry'
      cases hentry'
      exact hne hown
    · rename_i hown
      have hold : b.HasOld c oldIp := hasOld_iff.mpr ⟨hentry, hown⟩
      obtain ⟨found, s₂, hfound, h⟩ := Plan.runs_bind.mp h
      rcases runs_findOldNode hfound with ⟨rfl, hsettings, hprobe⟩ | ⟨rfl, hfind⟩
      · obtain ⟨u, s₃, hdown, h⟩ := Plan.runs_bind.mp h
        obtain ⟨rfl, rfl⟩ := Plan.runs_done.mp h
        exact .alive hread hold hsettings hprobe (shutDownEnds_of_runs hdown)
      · exact .gone hread hold hfind (markEnds_of_runs h)

theorem DecisionEnds.runs {a : Attempt Bool} (h : DecisionEnds react b s a s') :
    Runs react b.markReplacement s a s' := by
  unfold markReplacement
  cases h with
  | unread hread =>
    exact Plan.runs_bind.mpr ⟨_, _, runs_lookUp.mpr (Or.inl ⟨_, rfl, hread⟩), .done _ _⟩
  | nobody hread hnobody =>
    refine Plan.runs_bind.mpr ⟨_, _, runs_lookUp.mpr (Or.inr ⟨_, rfl, hread⟩), ?_⟩
    split
    · rename_i hx; cases hx
    · exact .done _ _
    · rename_i oldIp hx
      split
      · exact .done _ _
      · rename_i hown
        exact absurd (hasOld_iff.mpr ⟨Except.ok.inj hx, hown⟩) (hnobody oldIp)
  | alive hread hold hsettings hprobe hdown =>
    obtain ⟨hentry, hown⟩ := hasOld_iff.mp hold
    refine Plan.runs_bind.mpr ⟨_, _, runs_lookUp.mpr (Or.inr ⟨_, rfl, hread⟩), ?_⟩
    rw [hentry]
    dsimp only
    rw [if_neg hown]
    unfold findOldNode
    rw [if_pos hsettings]
    refine Plan.runs_bind.mpr ⟨true, _, hprobe.runs, ?_⟩
    exact Plan.runs_bind.mpr ⟨(), _, hdown.runs, .done _ _⟩
  | gone hread hold hfind hmark =>
    obtain ⟨hentry, hown⟩ := hasOld_iff.mp hold
    refine Plan.runs_bind.mpr ⟨_, _, runs_lookUp.mpr (Or.inr ⟨_, rfl, hread⟩), ?_⟩
    rw [hentry]
    dsimp only
    rw [if_neg hown]
    refine Plan.runs_bind.mpr ⟨false, _, hfind.runs, ?_⟩
    have hfresh {found : Lookup} {t t' : S} (hnew : found ≠ .present)
        (hlook : react (.lookUp b.settings.systemDataDir) t found t') :
        Runs react b.isBootstrapped t false t' :=
      runs_isBootstrapped.mpr ⟨found, hlook, iff_of_false Bool.false_ne_true hnew⟩
    cases hmark with
    | bootstrapped hlook =>
      have hbootstrapped : Runs react b.isBootstrapped _ true s' :=
        runs_isBootstrapped.mpr ⟨.present, hlook, iff_of_true rfl rfl⟩
      exact Plan.runs_bind.mpr ⟨true, s', hbootstrapped, .done _ _⟩
    | unopened hlook hnew hwrite =>
      exact Plan.runs_bind.mpr ⟨false, _, hfresh hnew hlook, .ask hwrite (.done _ _)⟩
    | unwritten hlook hnew hwrite =>
      exact Plan.runs_bind.mpr ⟨false, _, hfresh hnew hlook, .ask hwrite (.done _ _)⟩
    | marked hlook hnew hwrite =>
      exact Plan.runs_bind.mpr ⟨false, _, hfresh hnew hlook, .ask hwrite (.done _ _)⟩

/-- What a decision may ask for. -/
def MayDecide (b : Bootstrap) (q : Question) : Prop :=
  q = .store (.get b.registry.name) ∨ (∃ oldIp, q.IsTo oldIp) ∨
    q = .lookUp b.settings.systemDataDir ∨ ∃ text, q = .overwrite b.settings.replaceIpFile text

theorem onlyAsks_markReplacement (b : Bootstrap) : OnlyAsks b.MayDecide b.markReplacement := by
  have hlookup : OnlyAsks b.MayDecide (inStore (b.registry.addressOf b.settings.podName)) := by
    refine ⟨Or.inl rfl, fun x => ?_⟩
    cases x <;> trivial
  have hnode {oldIp : String} (q : Question) (hq : q.IsTo oldIp) : b.MayDecide q :=
    Or.inr (Or.inl ⟨oldIp, hq⟩)
  unfold markReplacement
  refine hlookup.bind fun x => ?_
  split
  · trivial
  · trivial
  split
  · trivial
  refine ((b.asksOldNode_findOldNode _).mono hnode).bind fun found => ?_
  split
  · exact ((asksOldNode_shutDownOldNode _).mono hnode).bind fun _ => trivial
  have hlook (q : Question) (hq : q = .lookUp b.settings.systemDataDir) : b.MayDecide q :=
    Or.inr (Or.inr (Or.inl hq))
  refine (b.looksUp_isBootstrapped.mono hlook).bind fun bootstrapped => ?_
  split
  · trivial
  refine ⟨Or.inr (Or.inr (Or.inr ⟨_, rfl⟩)), fun written => ?_⟩
  rcases written with (root | text) | u <;> trivial

end RingKeeper.Bootstrap
