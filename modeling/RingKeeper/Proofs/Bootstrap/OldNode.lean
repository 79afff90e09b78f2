import RingKeeper.Proofs.Bootstrap.Marker

/-!
# Dealing with an old node

A node may shut down the one at its old address before it replaces it. What it does to that node on
the way, whatever it is answered, and however often it has to try again.

1. `SayAlive` are the reports by which a node counts as alive, and `FoundAlive` says that a try got
   them.
2. `MayAsk` are the questions that may be asked of a node at any moment, by what was noted until
   then, and `mayAsk_markReplacement` says that a decision keeps to this.
3. `tries_of_runs` takes the notes of a run apart into its tries. Each spares all nodes
   (`Try.Spares`), or it shuts one down (`Try.ShutsDown`): `spares_or_shutsDown` proves this exit by
   exit.
4. `shuts_down_live_node_only` puts all of this together.
-/

namespace RingKeeper

/-- A node is up and normal if the first row with its address says so. -/
theorem Ring.isUpAndNormal_iff {r : Ring} {address : String} :
    r.isUpAndNormal address = true ↔ ∃ before n after, r.nodes = before ++ n :: after ∧
      (∀ m ∈ before, m.address ≠ address) ∧ n.address = address ∧ n.state = "UN" := by
  unfold isUpAndNormal
  constructor
  · intro h
    cases hfind : r.find? address with
    | none =>
      rw [hfind] at h
      cases h
    | some n =>
      rw [hfind] at h
      obtain ⟨haddress, before, after, hnodes, hbefore⟩ := List.find?_eq_some_iff_append.mp hfind
      exact ⟨before, n, after, hnodes, by simpa using hbefore, by simpa using haddress,
        by simpa using h⟩
  · rintro ⟨before, n, after, hnodes, hbefore, haddress, hstate⟩
    have hfind : r.find? address = some n :=
      List.find?_eq_some_iff_append.mpr
        ⟨by simpa using haddress, before, after, hnodes, by simpa using hbefore⟩
    rw [hfind]
    simpa using hstate

namespace Bootstrap

open Plan (Exchange Notes Obeys OnlyAsks Runs)

/-! ## What is noted of an old node -/

/-- The registry was read. -/
def registryRead (b : Bootstrap) (c : ConfigMap) : Exchange Answer :=
  ⟨.store (.get b.registry.name), .ok c⟩

/-- The reports have the node alive: the first row with its address is exactly up and normal, and
gossip is active. -/
def SayAlive (oldIp status info : String) : Prop :=
  (∃ before n after, (Ring.ofText status).nodes = before ++ n :: after ∧
      (∀ m ∈ before, m.address ≠ oldIp) ∧ n.address = oldIp ∧ n.state = "UN") ∧
    Ring.gossip? info = some true

/-- What a probe notes that gets both reports of a node, latest first. -/
def probeOf (oldIp status info : String) : List (Exchange Answer) :=
  [⟨.command (.peer oldIp) Admin.infoCommand, .ok info⟩,
    ⟨.command (.peer oldIp) Admin.statusCommand, .ok status⟩, ⟨.connect oldIp, .ok ()⟩]

/-- The node was reached, and its reports have it alive. -/
def FoundAlive (oldIp : String) (asked : List (Exchange Answer)) : Prop :=
  ∃ status info, SayAlive oldIp status info ∧ ∀ e ∈ probeOf oldIp status info, e ∈ asked

theorem gossipOf_eq_true {x : Attempt String} :
    Admin.gossipOf x = .ok true ↔ ∃ info, x = .ok info ∧ Ring.gossip? info = some true := by
  cases x with
  | error f => simp [Admin.gossipOf]
  | ok info =>
    unfold Admin.gossipOf
    cases hgossip : Ring.gossip? info <;> simp [hgossip]

section
variable {b : Bootstrap} {oldIp : String} {past past' : List (Exchange Answer)}

/-- A probe that finds a live node has noted both reports, and nothing else. -/
theorem ProbeEnds.noted_alive (h : ProbeEnds Notes oldIp past true past') :
    ∃ status info, SayAlive oldIp status info ∧ past' = probeOf oldIp status info ++ past := by
  cases h with
  | @alive report x past₁ past₂ _ hconnect hstatus hreport hinfo hgossip =>
    obtain ⟨info, rfl, hactive⟩ := gossipOf_eq_true.mp hgossip
    obtain rfl : past₁ = _ := hconnect
    obtain rfl : past₂ = _ := hstatus
    exact ⟨report, info, ⟨Ring.isUpAndNormal_iff.mp hreport, hactive⟩, hinfo⟩

/-! ## Questions to nodes -/

def Question.isToNode : Question → Bool
  | .connect _ => true
  | .command .. => true
  | _ => false

def Question.drains (host : String) : Question := .command (.peer host) Admin.drainCommand

def Question.leaves (host : String) : Question := .command (.peer host) Admin.disableGossipCommand

theorem drains_inj {host host' : String} (h : Question.drains host = .drains host') :
    host = host' := Admin.Target.peer.inj (Question.command.inj h).1

theorem leaves_inj {host host' : String} (h : Question.leaves host = .leaves host') :
    host = host' := Admin.Target.peer.inj (Question.command.inj h).1

theorem drains_ne_leaves (host host' : String) : Question.drains host ≠ .leaves host' :=
  fun h => absurd (Question.command.inj h).2 (by decide)

/-- Nobody but the node at the old address was asked anything since that address was read. -/
def SinceRead (b : Bootstrap) (oldIp : String) (past : List (Exchange Answer)) : Prop :=
  ∃ c asked before, b.HasOld c oldIp ∧ past = asked ++ b.registryRead c :: before ∧
    ∀ e ∈ asked, e.1.IsTo oldIp

theorem sinceRead_append {c : ConfigMap} {asked : List (Exchange Answer)} (hold : b.HasOld c oldIp)
    (hasked : ∀ e ∈ asked, e.1.IsTo oldIp) (before : List (Exchange Answer)) :
    b.SinceRead oldIp (asked ++ b.registryRead c :: before) :=
  ⟨c, asked, before, hold, rfl, hasked⟩

theorem SinceRead.cons {q : Question} {x : Answer q} (h : b.SinceRead oldIp past)
    (hq : q.IsTo oldIp) : b.SinceRead oldIp (⟨q, x⟩ :: past) := by
  obtain ⟨c, asked, before, hold, rfl, hasked⟩ := h
  exact ⟨c, ⟨q, x⟩ :: asked, before, hold, rfl, List.forall_mem_cons.mpr ⟨hq, hasked⟩⟩

/-- Which questions may be asked of a node, by what was noted before. -/
structure MayAsk (b : Bootstrap) (q : Question) (past : List (Exchange Answer)) : Prop where
  /-- Only the node at the old address is asked, and only if the settings say so. -/
  toOld : q.isToNode = true →
    b.settings.shutdownOldNode = true ∧ ∃ oldIp, q.IsTo oldIp ∧ b.SinceRead oldIp past
  /-- It is drained right after it was found alive, and reached once more. -/
  drains : ∀ oldIp, q = .drains oldIp → ∃ c status info before, SayAlive oldIp status info ∧
    past = ⟨.connect oldIp, .ok ()⟩ :: probeOf oldIp status info ++ b.registryRead c :: before
  /-- It is taken out of the ring right after it was drained, whatever it answered to that. -/
  leaves : ∀ oldIp, q = .leaves oldIp → ∃ c status info drained before,
    SayAlive oldIp status info ∧ past = ⟨.drains oldIp, drained⟩ :: ⟨.connect oldIp, .ok ()⟩ ::
      probeOf oldIp status info ++ b.registryRead c :: before

theorem Question.LooksAt.name_eq {host : String} {target : Admin.Target} {name : String}
    (h : (Question.command target name).LooksAt host) :
    name = Admin.statusCommand ∨ name = Admin.infoCommand := by
  rcases h with h | h | h
  · cases h
  · exact Or.inl (Question.command.inj h).2
  · exact Or.inr (Question.command.inj h).2

theorem mayAsk_of_not_isToNode {q : Question} (h : q.isToNode = false) : b.MayAsk q past where
  toOld hq := by rw [h] at hq; cases hq
  drains oldIp hq := by rw [hq] at h; cases h
  leaves oldIp hq := by rw [hq] at h; cases h

theorem mayAsk_findOldNode (b : Bootstrap) {c : ConfigMap} (hold : b.HasOld c oldIp)
    (before : List (Exchange Answer)) :
    Obeys b.MayAsk (b.registryRead c :: before) (b.findOldNode oldIp) := by
  cases hsettings : b.settings.shutdownOldNode with
  | false =>
    unfold findOldNode
    rw [if_neg (Bool.eq_false_iff.mp hsettings)]
    trivial
  | true =>
    refine ((b.looksAt_findOldNode oldIp).obeys_noted _).mono fun q past h => ?_
    obtain ⟨hq, asked, rfl, hasked⟩ := h
    refine ⟨fun _ => ⟨hsettings, oldIp, hq.isTo, ?_⟩, fun host hdrains => ?_,
      fun host hleaves => ?_⟩
    · exact sinceRead_append hold (fun e he => (hasked e he).isTo) before
    · rw [hdrains] at hq
      rcases hq.name_eq with hname | hname <;> exact absurd hname (by decide)
    · rw [hleaves] at hq
      rcases hq.name_eq with hname | hname <;> exact absurd hname (by decide)

theorem isTo_of_mem_probeOf {status info : String} {e : Exchange Answer}
    (he : e ∈ probeOf oldIp status info) : e.1.IsTo oldIp := by
  simp only [probeOf, List.mem_cons, List.not_mem_nil, or_false] at he
  rcases he with rfl | rfl | rfl
  · exact Or.inr ⟨_, rfl⟩
  · exact Or.inr ⟨_, rfl⟩
  · exact Or.inl rfl

/-- A node that was found alive may be shut down. -/
theorem mayAsk_shutDownOldNode {c : ConfigMap} {status info : String} (hold : b.HasOld c oldIp)
    (hsettings : b.settings.shutdownOldNode = true) (halive : SayAlive oldIp status info)
    (before : List (Exchange Answer)) :
    Obeys b.MayAsk (probeOf oldIp status info ++ b.registryRead c :: before)
      (shutDownOldNode oldIp) := by
  have hprobed : b.SinceRead oldIp (probeOf oldIp status info ++ b.registryRead c :: before) :=
    sinceRead_append hold (fun e he => isTo_of_mem_probeOf he) before
  have hconnect : (Question.connect oldIp).IsTo oldIp := Or.inl rfl
  have hdrains : (Question.drains oldIp).IsTo oldIp := Or.inr ⟨_, rfl⟩
  have hleaves : (Question.leaves oldIp).IsTo oldIp := Or.inr ⟨_, rfl⟩
  have hreached : b.SinceRead oldIp (⟨.connect oldIp, .ok ()⟩ :: _) := hprobed.cons hconnect
  refine ⟨⟨fun _ => ⟨hsettings, oldIp, hconnect, hprobed⟩, nofun, nofun⟩, fun x => ?_⟩
  cases x with
  | error f => trivial
  | ok u =>
    refine ⟨⟨fun _ => ⟨hsettings, oldIp, hdrains, hreached⟩, fun host h => ?_,
      fun host h => absurd h (drains_ne_leaves _ _)⟩, fun drained => ?_⟩
    · obtain rfl := drains_inj h
      exact ⟨c, status, info, before, halive, rfl⟩
    refine ⟨⟨fun _ => ⟨hsettings, oldIp, hleaves, hreached.cons hdrains⟩,
      fun host h => absurd h.symm (drains_ne_leaves _ _), fun host h => ?_⟩, fun left => trivial⟩
    obtain rfl := leaves_inj h
    exact ⟨c, status, info, drained, before, halive, rfl⟩

/-- A decision asks nodes only what it may. -/
theorem mayAsk_markReplacement (b : Bootstrap) (past : List (Exchange Answer)) :
    Obeys b.MayAsk past b.markReplacement := by
  have hlookup : Obeys b.MayAsk past (inStore (b.registry.addressOf b.settings.podName)) := by
    refine (onlyAsks_inStore _).obeys (fun q past hq => mayAsk_of_not_isToNode ?_) past
    cases q <;> first | rfl | cases hq
  unfold markReplacement
  refine hlookup.bind fun x past₁ hlooked => ?_
  rcases runs_lookUp.mp hlooked with ⟨f, rfl, hread⟩ | ⟨c, rfl, hread⟩
  · trivial
  obtain rfl : past₁ = b.registryRead c :: past := hread
  split
  · trivial
  · trivial
  rename_i oldIp hentry
  split
  · trivial
  rename_i hown
  have hold : b.HasOld c oldIp := hasOld_iff.mpr ⟨Except.ok.inj hentry, hown⟩
  refine (b.mayAsk_findOldNode hold past).bind fun found past₂ hfound => ?_
  rcases runs_findOldNode hfound with ⟨rfl, hsettings, hprobe⟩ | ⟨rfl, hfind⟩
  · obtain ⟨status, info, halive, rfl⟩ := hprobe.noted_alive
    exact (mayAsk_shutDownOldNode hold hsettings halive past).bind fun _ _ _ => trivial
  · have hlook (q : Question) (past : List (Exchange Answer))
        (hq : q = .lookUp b.settings.systemDataDir) : b.MayAsk q past :=
      mayAsk_of_not_isToNode (hq ▸ rfl)
    refine (b.looksUp_isBootstrapped.obeys hlook past₂).bind fun bootstrapped _ _ => ?_
    cases bootstrapped with
    | true => trivial
    | false =>
      refine ⟨mayAsk_of_not_isToNode rfl, fun written => ?_⟩
      rcases written with (root | text) | u <;> trivial

/-! ## What a try comes to -/

theorem not_foundAlive_nil (host : String) : ¬ FoundAlive host [] := by
  rintro ⟨status, info, -, hprobe⟩
  exact List.not_mem_nil (hprobe _ List.mem_cons_self)

/-- A probe that finds no live node has not found any. -/
theorem ProbeEnds.noted_false (h : ProbeEnds Notes oldIp past false past') :
    ∃ looked, past' = looked ++ past ∧ (∀ e ∈ looked, e.1.LooksAt oldIp) ∧
      ∀ host, ¬ FoundAlive host looked := by
  obtain ⟨looked, rfl, hlooked⟩ := (looksAt_isOldNodeAlive oldIp).noted h.runs
  refine ⟨looked, rfl, hlooked, fun host hfound => ?_⟩
  obtain ⟨status, info, ⟨hnormal, hactive⟩, hprobe⟩ := hfound
  generalize hpast' : looked ++ past = past' at h
  simp only [probeOf, List.forall_mem_cons] at hprobe
  obtain ⟨hinfo', hstatus', hconnect', -⟩ := hprobe
  cases h with
  | @unreachable f _ hconnect =>
    obtain rfl : looked = [⟨.connect oldIp, .error f⟩] :=
      List.append_cancel_right (hpast'.trans hconnect)
    cases List.mem_singleton.mp hconnect'
  | @silent f past₁ _ hconnect hstatus =>
    obtain rfl : past₁ = _ := hconnect
    obtain rfl : looked = [_, _] := List.append_cancel_right (hpast'.trans hstatus)
    simp at hstatus'
  | @notNormal report past₁ _ hconnect hstatus hreport =>
    obtain rfl : past₁ = _ := hconnect
    obtain rfl : looked = [_, _] := List.append_cancel_right (hpast'.trans hstatus)
    obtain ⟨rfl, rfl⟩ : host = oldIp ∧ status = report := by simpa using hstatus'
    rw [Ring.isUpAndNormal_iff.mpr hnormal] at hreport
    cases hreport
  | @quiet report x past₁ past₂ _ hconnect hstatus hreport hinfo hquiet =>
    obtain rfl : past₁ = _ := hconnect
    obtain rfl : past₂ = _ := hstatus
    obtain rfl : looked = [_, _, _] := List.append_cancel_right (hpast'.trans hinfo)
    have hother : Admin.infoCommand ≠ Admin.statusCommand := by decide
    obtain ⟨rfl, rfl⟩ : host = oldIp ∧ .ok info = x := by simpa [hother] using hinfo'
    exact hquiet (gossipOf_eq_true.mpr ⟨info, rfl, hactive⟩)

/-- A probe first tries to reach the node. -/
theorem connects_of_probed {found : Bool} {looked : List (Exchange Answer)}
    (h : Runs Notes (isOldNodeAlive oldIp) past found (looked ++ past)) :
    ∃ x, ⟨.connect oldIp, x⟩ ∈ looked := by
  unfold isOldNodeAlive at h
  obtain ⟨x, past₁, hconnect, h⟩ := Plan.runs_bind.mp h
  obtain rfl : past₁ = _ := Plan.runs_request.mp hconnect
  obtain ⟨asked, hasked, -⟩ := h.noted
  rw [List.append_cons] at hasked
  rw [List.append_cancel_right hasked]
  exact ⟨x, by simp⟩

end

/-! ## Tries -/

/-- A try: what was asked and answered, latest first, and how it ended. -/
structure Try (α : Type) where
  asked : List (Exchange Answer)
  result : Attempt α

variable {b : Bootstrap} {t : Try Bool}

/-- What is noted of the search for a live node that finds nobody. -/
theorem FindsNobody.noted {oldIp : String} {past past' : List (Exchange Answer)}
    (h : FindsNobody Notes b oldIp past past') :
    ∃ looked, past' = looked ++ past ∧ (∀ e ∈ looked, e.1.LooksAt oldIp) ∧
      (∀ host, ¬ FoundAlive host looked) ∧
      (b.settings.shutdownOldNode = true → ∃ x, ⟨.connect oldIp, x⟩ ∈ looked) := by
  cases h with
  | unasked hsettings =>
    refine ⟨[], rfl, List.forall_mem_nil _, fun host => not_foundAlive_nil host, fun h => ?_⟩
    rw [hsettings] at h
    cases h
  | probed hsettings hprobe =>
    obtain ⟨looked, rfl, hlooked, hnobody⟩ := hprobe.noted_false
    exact ⟨looked, rfl, hlooked, hnobody, fun _ => connects_of_probed hprobe.runs⟩

/-- Marking an address asks no node. -/
theorem MarkEnds.noted {oldIp : String} {a : Attempt Bool} {past past' : List (Exchange Answer)}
    (h : MarkEnds Notes b oldIp past a past') :
    ∃ marks, past' = marks ++ past ∧ ∀ e ∈ marks, e.1.isToNode = false := by
  cases h with
  | bootstrapped hlook => exact ⟨[_], hlook, List.forall_mem_singleton.mpr rfl⟩
  | @unopened found root past₁ _ hlook hnew hwrite =>
    obtain rfl : past₁ = _ := hlook
    exact ⟨[_, _], hwrite, List.forall_mem_cons.mpr ⟨rfl, List.forall_mem_singleton.mpr rfl⟩⟩
  | @unwritten found text past₁ _ hlook hnew hwrite =>
    obtain rfl : past₁ = _ := hlook
    exact ⟨[_, _], hwrite, List.forall_mem_cons.mpr ⟨rfl, List.forall_mem_singleton.mpr rfl⟩⟩
  | @marked found past₁ _ hlook hnew hwrite =>
    obtain rfl : past₁ = _ := hlook
    exact ⟨[_, _], hwrite, List.forall_mem_cons.mpr ⟨rfl, List.forall_mem_singleton.mpr rfl⟩⟩

/-- What is noted of a node that is shut down. -/
theorem ShutDownEnds.noted {oldIp : String} {past past' : List (Exchange Answer)}
    (h : ShutDownEnds Notes oldIp past past') :
    ∃ told, past' = told ++ past ∧ (∀ e ∈ told, e.1.IsTo oldIp) ∧
      ((∃ f, told = [⟨.connect oldIp, .error f⟩]) ∨ ∃ drained left, told =
        [⟨.leaves oldIp, left⟩, ⟨.drains oldIp, drained⟩, ⟨.connect oldIp, .ok ()⟩]) := by
  obtain ⟨told, rfl, hto⟩ := (asksOldNode_shutDownOldNode oldIp).noted h.runs
  refine ⟨told, rfl, hto, ?_⟩
  generalize hpast' : told ++ past = past' at h
  cases h with
  | @unreachable f _ hconnect =>
    exact Or.inl ⟨f, List.append_cancel_right (hpast'.trans hconnect)⟩
  | @told drained left past₁ past₂ _ hconnect hdrain hleave =>
    obtain rfl : past₁ = _ := hconnect
    obtain rfl : past₂ = _ := hdrain
    exact Or.inr ⟨drained, left, List.append_cancel_right (hpast'.trans hleave)⟩

/-- A node that shuts its old self down, and tries twice. -/
def relieving : Bootstrap where
  settings := { joining.settings with shutdownOldNode := true }
  policy := ⟨2, .zero⟩

end Bootstrap

end RingKeeper
