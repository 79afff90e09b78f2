import RingKeeper.Proofs.Bootstrap.CommitOrder

/-!
# What a decision says of the marker

A decision that succeeds answers whether it marked an address. It never looks at the marker before,
and it never clears it. So the answer is wrong about a marker that an earlier life of the node left
behind.

1. `Scene.Allows` are surroundings in which others may write anything to the registry, and every
   call may fail, also a file while it is written.
2. `Tells` is what a decision that succeeds says of the marker: of what was in it when the decision
   began, and of the address that is in it now. `tells_of_runs` proves it of a single decision.
3. `tells_marker_iff` says of decisions, and of those that are tried again, when the answer is
   right; and `leaves_stale_marker` is one whose answer is wrong.
-/

namespace RingKeeper.Bootstrap

open Plan (Exchange OnlyAsks Runs)
open Rehearsal (FileEntry)

/-! ## Surroundings -/

/-- What becomes of the files when one is written. If it was opened but not written, they may be in
any state. -/
inductive Writes (path text : String) (files : String → Option FileEntry) :
    Except WriteFailure Unit → (String → Option FileEntry) → Prop where
  | written {files' : String → Option FileEntry}
    (h : files' path = some (.file (Text.encode text))) : Writes path text files (.ok ()) files'
  | unopened (root : String) : Writes path text files (.error (.unopened root)) files
  | unwritten (why : String) (files' : String → Option FileEntry) :
    Writes path text files (.error (.unwritten why)) files'

/-- What looking at a path may tell: what is there, or that this cannot be told. -/
inductive Finds (path : String) (files : String → Option FileEntry) : Lookup → Prop where
  | present (h : (files path).isSome = true) : Finds path files .present
  | absent (h : files path = none) : Finds path files .absent
  | unknown (why : String) : Finds path files (.unknown why)

/-- A file was opened but not written. -/
def BrokeOff (e : Exchange Answer) : Prop :=
  ∃ path text why, e = ⟨.overwrite path text, .error (.unwritten why)⟩

/-- Others may write anything to the registry before each call to the store, and the call may fail.
Files are found where they are, as far as that can be told. All else is answered in any way. -/
def Scene.Allows : (q : Question) → Scene → Answer q → Scene → Prop
  | .store call, s, x, s' =>
    (∃ t, StoreReacts call t x s'.store) ∧ s'.files = s.files ∧
      s'.past = ⟨.store call, x⟩ :: s.past
  | .lookUp path, s, x, s' =>
    Finds path s.files x ∧ s' = { s with past := ⟨.lookUp path, x⟩ :: s.past }
  | .overwrite path text, s, x, s' =>
    Writes path text s.files x s'.files ∧ s'.store = s.store ∧
      s'.past = ⟨.overwrite path text, x⟩ :: s.past
  | q, s, x, s' => s' = { s with past := ⟨q, x⟩ :: s.past }

/-- A text that is not empty is written in the file. -/
def HoldsText (files : String → Option FileEntry) (path : String) : Prop :=
  ∃ text, files path = some (.file (Text.encode text)) ∧ text ≠ ""

/-! ## A single decision -/

/-- What a decision that succeeds says of the marker. -/
structure Tells (b : Bootstrap) (s : Scene) (held : Bool) (s' : Scene) : Prop where
  /-- If it marked, the marker has the old address that is in the registry. -/
  marked : held = true → ∃ oldIp, EntryIs b.settings.podName oldIp s'.store ∧ oldIp ≠ "" ∧
    oldIp ≠ b.settings.podIp ∧
    s'.files b.settings.replaceIpFile = some (.file (Text.encode oldIp))
  /-- If it did not, the marker is as it was. -/
  unmarked : held = false → s'.files = s.files
  /-- It is right that the marker has an address now, unless it was there before. -/
  truth : (HoldsText s'.files b.settings.replaceIpFile ↔ held = true) ↔
    (held = true ∨ ¬ HoldsText s.files b.settings.replaceIpFile)

namespace Scene

variable {b : Bootstrap} {s s' : Scene} {q : Question} {x : Answer q}

theorem Allows.past_eq (h : Allows q s x s') : s'.past = ⟨q, x⟩ :: s.past := by
  cases q with
  | store call => exact h.2.2
  | overwrite path text => exact h.2.2
  | lookUp path => rw [h.2]
  | _ => rw [show s' = _ from h]

theorem allows_read {name : String} {c : ConfigMap}
    (h : Allows (.store (.get name)) s (.ok c) s') : s'.store.configMap? = some c := by
  obtain ⟨⟨t, hreacts⟩, -⟩ := h
  rw [storeReacts_get_store hreacts]
  exact storeReacts_get_ok hreacts

theorem allows_suffix {α : Type} {p : Procedure α} {a : α} (h : Runs Allows p s a s') :
    s.past <:+ s'.past := by
  induction h with
  | done a s => exact List.suffix_refl s.past
  | ask hreact hrest ih =>
    rw [hreact.past_eq] at ih
    exact (List.suffix_cons _ _).trans ih

/-- Where questions to the old node leave the registry and the files alone, so does whatever asks
nothing else. -/
theorem unchanged_of_asksOldNode {react : (q : Question) → Scene → Answer q → Scene → Prop}
    {α : Type} {p : Procedure α} {a : α} {oldIp : String}
    (hreact : ∀ (q : Question) (t : Scene) (x : Answer q) (t' : Scene), q.IsTo oldIp →
      react q t x t' → t'.store = t.store ∧ t'.files = t.files)
    (hp : OnlyAsks (·.IsTo oldIp) p) (h : Runs react p s a s') :
    s'.store = s.store ∧ s'.files = s.files := by
  refine hp.keeps (I := fun t => t.store = s.store ∧ t.files = s.files)
    (fun q t x t' hq hasked ht => ?_) h ⟨rfl, rfl⟩
  obtain ⟨hstore, hfiles⟩ := hreact q t x t' hq hasked
  exact ⟨hstore.trans ht.1, hfiles.trans ht.2⟩

theorem allows_asksOldNode {α : Type} {p : Procedure α} {a : α} {oldIp : String}
    (hp : OnlyAsks (·.IsTo oldIp) p) (h : Runs Allows p s a s') :
    s'.store = s.store ∧ s'.files = s.files := by
  refine unchanged_of_asksOldNode (fun q t x t' hq hreact => ?_) hp h
  rcases hq with rfl | ⟨name, rfl⟩ <;>
  · obtain rfl : t' = _ := hreact
    exact ⟨rfl, rfl⟩

theorem tells_of_runs {held : Bool} (h : Runs Allows b.markReplacement s (.ok held) s') :
    b.Tells s held s' := by
  have hleft (hfiles : s'.files = s.files) : b.Tells s false s' := by
    refine ⟨fun h => (nomatch h), fun _ => hfiles, ?_⟩
    rw [hfiles]
    simp
  cases decisionEnds_of_runs h with
  | nobody hread hnobody => exact hleft hread.2.1
  | gone hread hold hfind hmark =>
    obtain ⟨hstore, hfiles⟩ := allows_asksOldNode (b.asksOldNode_findOldNode _) hfind.runs
    cases hmark with
    | bootstrapped hlook =>
      obtain ⟨-, rfl⟩ := hlook
      exact hleft (hfiles.trans hread.2.1)
    | marked hlook hnew hwrite =>
      obtain ⟨-, rfl⟩ := hlook
      obtain ⟨hwrites, hstore', -⟩ := hwrite
      cases hwrites with
      | written hmarker =>
        refine ⟨fun _ => ⟨_, ⟨_, ?_, hold.1⟩, hold.2.1, hold.2.2, hmarker⟩, nofun, ?_⟩
        · rw [hstore', hstore]
          exact allows_read hread
        · simpa using ⟨_, hmarker, hold.2.1⟩

/-- A decision that fails leaves the files alone, unless a write broke off. -/
theorem files_of_error {f : Fault} (h : Runs Allows b.markReplacement s (.error f) s') :
    s'.files = s.files ∨ ∃ e ∈ s'.past, BrokeOff e := by
  cases decisionEnds_of_runs h with
  | unread hread => exact Or.inl hread.2.1
  | alive hread hold hsettings hprobe hdown =>
    have hprobed := allows_asksOldNode (asksOldNode_isOldNodeAlive _) hprobe.runs
    have hleft := allows_asksOldNode (asksOldNode_shutDownOldNode _) hdown.runs
    exact Or.inl (hleft.2.trans (hprobed.2.trans hread.2.1))
  | gone hread hold hfind hmark =>
    have hfound := allows_asksOldNode (b.asksOldNode_findOldNode _) hfind.runs
    cases hmark with
    | unopened hlook hnew hwrite =>
      obtain ⟨-, rfl⟩ := hlook
      obtain ⟨hwrites, -⟩ := hwrite
      refine Or.inl (Eq.trans ?_ (hfound.2.trans hread.2.1))
      generalize s'.files = files' at hwrites
      cases hwrites
      rfl
    | unwritten hlook hnew hwrite =>
      have hpast := hwrite.past_eq
      exact Or.inr ⟨_, hpast ▸ List.mem_cons_self, _, _, _, rfl⟩

end Scene

/-! ## Decisions that are tried again -/

/-- A success after several tries is that of the last one, which found the files as they were at
first, unless a write broke off before. -/
theorem exists_lastTry {b : Bootstrap} {s s' : Scene} {held : Bool}
    (h : Runs Scene.Allows b.prepare s (.ok held) s') :
    ∃ s₁, Runs Scene.Allows b.markReplacement s₁ (.ok held) s' ∧
      (s₁.files = s.files ∨ ∃ e ∈ s'.past, BrokeOff e) := by
  let I (t : Scene) : Prop := t.files = s.files ∨ ∃ e ∈ t.past, BrokeOff e
  have hgrows {t t' : Scene} (hpast : t.past <:+ t'.past) :
      (∃ e ∈ t.past, BrokeOff e) → ∃ e ∈ t'.past, BrokeOff e :=
    fun ⟨e, he, hbroke⟩ => ⟨e, hpast.mem he, hbroke⟩
  have hfails (t : Scene) (f : Fault) (t' : Scene)
      (htry : Runs Scene.Allows b.markReplacement t (.error f) t') (ht : I t) : I t' := by
    rcases Scene.files_of_error htry with hsame | hbroke
    · exact ht.imp (fun ht => hsame.trans ht) (hgrows (Scene.allows_suffix htry))
    · exact Or.inr hbroke
  have hpause (t t' : Scene) (hslept : Runs Scene.Allows (sleep b.policy.delay) t () t')
      (ht : I t) : I t' := by
    have hpast := Scene.allows_suffix hslept
    obtain rfl : t' = _ := Plan.runs_request.mp hslept
    exact ht.imp_right (hgrows hpast)
  obtain ⟨s₁, hfiles, hlast⟩ :=
    RetryPolicy.runs_tryAgain_ok_keeping hfails hpause (Or.inl rfl : I s) h
  exact ⟨s₁, hlast, hfiles.imp_right (hgrows (Scene.allows_suffix hlast))⟩

/--
**When a decision tells the truth about the marker.** Whatever is in the registry and in the files,
and whatever is answered: if a decision succeeds that answers that it marked, the marker has the old
address that is in the registry; if it answers that it did not, the files are as before. So it is
right that the marker has an address now, exactly if it marked or the marker had none before. For
decisions that are tried again this is so of the last try; and this one finds the files as they were
at first, unless a file was opened before that could not be written.
-/
theorem tells_marker_iff (b : Bootstrap) (s s' : Scene) (held : Bool) :
    (Runs Scene.Allows b.markReplacement s (.ok held) s' → b.Tells s held s') ∧
    (Runs Scene.Allows b.prepare s (.ok held) s' →
      ∃ s₁, Runs Scene.Allows b.markReplacement s₁ (.ok held) s' ∧ b.Tells s₁ held s' ∧
        (s₁.files = s.files ∨ ∃ e ∈ s'.past, BrokeOff e)) := by
  refine ⟨Scene.tells_of_runs, fun h => ?_⟩
  obtain ⟨s₁, hlast, hfiles⟩ := exists_lastTry h
  exact ⟨s₁, hlast, Scene.tells_of_runs hlast, hfiles⟩

/-! ## A marker of an earlier life -/

/-- The registry has the address that the node had before it was restarted. -/
def movedRegistry : ConfigMap :=
  { metadata := { name := some "registry" }, data := some ⟨[("node-0", "10.0.0.5")]⟩ }

/-- A node that replaced itself and bootstrapped, and was stopped before it had rejoined. -/
def stoppedLate : Scene where
  store := ⟨some (movedRegistry, 1)⟩
  files := fun path =>
    if path = "replace.ip" then some (.file (Text.encode "10.0.0.5"))
    else if path = "data" then some .directory
    else none
  past := []

def movedRead : Exchange Answer := ⟨.store (.get "registry"), .ok (movedRegistry.atVersion 1)⟩

/-- The node after it has decided again. -/
def decidedAgain : Scene :=
  { stoppedLate with past := [⟨.lookUp "data", .present⟩, movedRead] }

theorem hasOld_movedRegistry : joining.HasOld (movedRegistry.atVersion 1) "10.0.0.5" :=
  ⟨rfl, by decide, by decide⟩

theorem runs_decidedAgain :
    Runs Scene.Allows joining.markReplacement stoppedLate (.ok false) decidedAgain := by
  have hread : Scene.Allows (.store (.get "registry")) stoppedLate (.ok (movedRegistry.atVersion 1))
      { stoppedLate with past := [movedRead] } :=
    ⟨⟨stoppedLate.store, Or.inl ⟨rfl, rfl⟩⟩, rfl, rfl⟩
  exact (DecisionEnds.gone hread hasOld_movedRegistry (.unasked rfl)
    (.bootstrapped ⟨.present rfl, rfl⟩)).runs

theorem tells_marker_iff_stopped :
    Runs Scene.Allows joining.markReplacement stoppedLate (.ok false) decidedAgain ∧
      joining.Tells stoppedLate false decidedAgain :=
  ⟨runs_decidedAgain, (tells_marker_iff joining stoppedLate decidedAgain false).1 runs_decidedAgain⟩

/-- The answer is that the marker has no address, and it has one. -/
theorem leaves_stale_marker :
    Runs Scene.Allows joining.markReplacement stoppedLate (.ok false) decidedAgain ∧
      Runs Scene.Allows joining.prepare stoppedLate (.ok false) decidedAgain ∧
      HoldsText decidedAgain.files joining.settings.replaceIpFile :=
  ⟨runs_decidedAgain, runs_decidedAgain, "10.0.0.5", rfl, by decide⟩

end RingKeeper.Bootstrap
