import Mathlib.Logic.Function.Basic
import RingKeeper.Proofs.Bootstrap.Exits
import RingKeeper.Proofs.Bootstrap.LeftLock
import RingKeeper.Proofs.Registry.History
import RingKeeper.Rehearsal.Files

/-!
# The order of a rejoin

A rejoin keeps two records: the pod's entry in the registry, and the replace marker in a file. The
marker is cleared last, so that an address that was not committed is still marked.

1. `Scene` is the registry and the files, and what was asked and answered so far. `Scene.Reacts`
   lets others write to the registry before each call, and lets the calls fail.
2. `obeys_rejoinWithin` says, whatever the answers, that the marker is only written right after a
   commit of the same rejoin succeeded.
3. `commit_entry` and `markReplacement_declines` are the entry after a commit, and what a decision
   makes of it.
4. `rejoin_commits_first` puts them together.
-/

namespace RingKeeper

theorem Text.encode_empty : Text.encode "" = [] := by simp [Text.encode]

namespace Bootstrap

open Plan (Exchange Notes Obeys OnlyAsks Runs)
open Registry (Store writerKey)
open Rehearsal (FileEntry)

/-! ## Entries of the registry -/

/-- The registry has this address for the pod. -/
def EntryIs (pod address : String) (s : Store) : Prop :=
  ∃ c, s.configMap? = some c ∧ c.dataAt? pod = some address

/-- What others may make of the registry: anything but another entry of the pod. -/
def KeepsEntry (pod : String) (s t : Store) : Prop :=
  ∀ c, s.configMap? = some c → ∃ d, t.configMap? = some d ∧ d.dataAt? pod = c.dataAt? pod

/-- The store answers the call; or the call fails, and may have been applied nevertheless. -/
def StoreReacts (call : Registry.Question) (s : Store) (x : Registry.Answer call) (s' : Store) :
    Prop :=
  (x = (s.answer call).1 ∧ s' = (s.answer call).2) ∨
    (∃ f, x = .error f) ∧ (s' = s ∨ s' = (s.answer call).2)

variable {pod address : String} {s s' t : Store} {c : ConfigMap}

theorem KeepsEntry.entryIs (h : KeepsEntry pod s t) (hs : EntryIs pod address s) :
    EntryIs pod address t := by
  obtain ⟨c, hc, haddress⟩ := hs
  obtain ⟨d, hd, hkept⟩ := h c hc
  exact ⟨d, hd, hkept.trans haddress⟩

theorem storeReacts_get_ok {name : String} (h : StoreReacts (.get name) s (.ok c) s') :
    s.configMap? = some c := by
  rcases h with ⟨hx, -⟩ | ⟨⟨f, hx⟩, -⟩
  · obtain ⟨d, version, hd, rfl, -⟩ := Store.get_ok hx.symm
    exact Store.configMap?_eq hd
  · cases hx

theorem storeReacts_get_store {name : String} {x : Attempt ConfigMap}
    (h : StoreReacts (.get name) s x s') : s' = s := by
  rcases h with ⟨-, rfl⟩ | ⟨-, rfl | rfl⟩ <;> rfl

/-- A replacement by a configmap with the same entry keeps the entry. -/
theorem entryIs_replace (hs : EntryIs pod address s) (hc : c.dataAt? pod = some address) :
    EntryIs pod address (s.replace c).2 := by
  cases hreplace : s.replace c with
  | mk x s' =>
    cases x with
    | error f =>
      obtain rfl := Store.replace_error hreplace
      exact hs
    | ok left =>
      obtain ⟨d, version, -, -, -, rfl⟩ := Store.replace_ok hreplace
      exact ⟨_, Store.configMap?_eq rfl, hc⟩

/-- A configmap that is stored leaves its entries in the registry. -/
theorem storeReacts_replace_ok {left : ConfigMap} (hc : c.dataAt? pod = some address)
    (h : StoreReacts (.replace c) s (.ok left) s') : EntryIs pod address s' := by
  rcases h with ⟨hx, rfl⟩ | ⟨⟨f, hx⟩, -⟩
  · obtain ⟨d, version, -, -, -, hs'⟩ := Store.replace_ok (Prod.ext hx.symm rfl)
    exact ⟨_, Store.configMap?_eq (congrArg Store.stored hs'), hc⟩
  · cases hx

theorem storeReacts_replace_keeps {x : Attempt ConfigMap} (hs : EntryIs pod address s)
    (hc : c.dataAt? pod = some address) (h : StoreReacts (.replace c) s x s') :
    EntryIs pod address s' := by
  rcases h with ⟨-, rfl⟩ | ⟨-, rfl | rfl⟩
  · exact entryIs_replace hs hc
  · exact hs
  · exact entryIs_replace hs hc

/-! ## Surroundings of a rejoin -/

/-- The registry and the files around a node. -/
structure Scene where
  store : Store
  files : String → Option FileEntry
  /-- What was asked and answered, latest first. -/
  past : List (Exchange Answer)

/--
Others may write to the registry before each call to the store. A file that cannot be opened is as
it was; one that can be opened can be written. All else is answered in any way.
-/
def Scene.Reacts (pod : String) : (q : Question) → Scene → Answer q → Scene → Prop
  | .store call, s, x, s' =>
    (∃ t, KeepsEntry pod s.store t ∧ StoreReacts call t x s'.store) ∧ s'.files = s.files ∧
      s'.past = ⟨.store call, x⟩ :: s.past
  | .overwrite path text, s, x, s' =>
    ((x = .ok () ∧
        s'.files = Function.update s.files path (some (.file (Text.encode text)))) ∨
      (∃ root, x = .error (.unopened root)) ∧ s'.files = s.files) ∧
      s'.store = s.store ∧ s'.past = ⟨.overwrite path text, x⟩ :: s.past
  | q, s, x, s' => s' = { s with past := ⟨q, x⟩ :: s.past }

namespace Scene

variable {b : Bootstrap} {s s' : Scene} {q : Question} {x : Answer q} {r : Registry}

theorem Reacts.files_of_not_overwrite (h : Reacts pod q s x s')
    (hq : ∀ path text, q ≠ .overwrite path text) : s'.files = s.files := by
  cases q with
  | store call => exact h.2.1
  | overwrite path text => exact absurd rfl (hq path text)
  | _ => rw [show s' = _ from h]

theorem Reacts.past_eq (h : Reacts pod q s x s') : s'.past = ⟨q, x⟩ :: s.past := by
  cases q with
  | store call => exact h.2.2
  | overwrite path text => exact h.2.2
  | _ => rw [show s' = _ from h]

/-! ## The commit -/

/-- The reactions to calls to the store. -/
abbrev Calls (pod : String) (call : Registry.Question) :
    Scene → Registry.Answer call → Scene → Prop := Reacts pod (.store call)

theorem putAddress_entry (hpod : pod ≠ writerKey)
    (h : Runs (Calls pod) (r.putAddress pod address) s (.ok ()) s') :
    EntryIs pod address s'.store := by
  unfold Registry.putAddress at h
  obtain ⟨x, s₁, -, h⟩ := Plan.runs_bind.mp h
  cases x with
  | error f => cases (Plan.runs_done.mp h).1
  | ok c =>
    obtain ⟨x, s₂, hreplace, h⟩ := Plan.runs_bind.mp h
    cases x with
    | error f => cases (Plan.runs_done.mp h).1
    | ok left =>
      obtain ⟨-, rfl⟩ := Plan.runs_done.mp h
      obtain ⟨⟨t, -, hreacts⟩, -⟩ := Plan.runs_request.mp hreplace
      exact storeReacts_replace_ok (c.dataAt?_recordAddress_self hpod) hreacts

/-- Freeing the lock keeps the entry. -/
theorem release_entry {holder : String} {freed : Bool} (hs : EntryIs pod address s.store)
    (h : Runs (Calls pod) (r.release holder) s freed s') : EntryIs pod address s'.store := by
  unfold Registry.release at h
  obtain ⟨x, s₁, hget, h⟩ := Plan.runs_bind.mp h
  obtain ⟨⟨t, hkept, hreacts⟩, -⟩ := Plan.runs_request.mp hget
  have hs₁ : EntryIs pod address s₁.store := by
    rw [storeReacts_get_store hreacts]
    exact hkept.entryIs hs
  cases x with
  | error f =>
    dsimp only at h
    split at h <;> exact (Plan.runs_done.mp h).2 ▸ hs₁
  | ok c =>
    dsimp only at h
    split at h
    · obtain ⟨x, s₂, hreplace, h⟩ := Plan.runs_bind.mp h
      obtain ⟨⟨t', hkept', hreacts'⟩, -⟩ := Plan.runs_request.mp hreplace
      -- what is written back was read after the commit, and so has the entry
      have hc : (c.lockFor "").dataAt? pod = some address := by
        obtain ⟨d, hd, haddress⟩ := hkept.entryIs hs
        rw [storeReacts_get_ok hreacts] at hd
        cases hd
        exact haddress
      have hs₂ : EntryIs pod address s₂.store :=
        storeReacts_replace_keeps (hkept'.entryIs hs₁) hc hreacts'
      cases x <;> exact (Plan.runs_done.mp h).2 ▸ hs₂
    · exact (Plan.runs_done.mp h).2 ▸ hs₁

/-- After a commit the pod's entry is the address. -/
theorem commit_entry (hpod : pod ≠ writerKey)
    (h : Runs (Calls pod) (r.commit pod address) s (.ok ()) s') : EntryIs pod address s'.store := by
  unfold Registry.commit at h
  obtain ⟨x, s₁, -, h⟩ := Plan.runs_bind.mp h
  cases x with
  | error f => cases (Plan.runs_done.mp h).1
  | ok guard =>
    obtain ⟨written, s₂, hput, h⟩ := Plan.runs_bind.mp h
    obtain ⟨freed, s₃, hrelease, h⟩ := Plan.runs_bind.mp h
    obtain ⟨rfl, rfl⟩ := Plan.runs_done.mp h
    exact release_entry (putAddress_entry hpod hput) hrelease

/-! ## The decision after it -/

/-- A node whose own address is recorded has nobody to replace, if it can read that at all. -/
theorem markReplacement_declines {a : Attempt Bool}
    (hentry : EntryIs b.settings.podName b.settings.podIp s.store) (hpast : s.past = [])
    (h : Runs (Reacts b.settings.podName) b.markReplacement s a s') {c : ConfigMap}
    (hread : ⟨.store (.get b.registry.name), .ok c⟩ ∈ s'.past) :
    a = .ok false ∧ s'.files = s.files := by
  have hown {c : ConfigMap} {s₁ : Scene} {oldIp : String}
      (hreads : Reacts b.settings.podName (.store (.get b.registry.name)) s (.ok c) s₁) :
      ¬ b.HasOld c oldIp := by
    obtain ⟨⟨t, hkept, hreacts⟩, -⟩ := hreads
    obtain ⟨d, hd, haddress⟩ := hkept.entryIs hentry
    obtain rfl : d = c := Option.some.inj (hd.symm.trans (storeReacts_get_ok hreacts))
    exact fun hold => hold.2.2 (Option.some.inj (hold.1.symm.trans haddress))
  cases decisionEnds_of_runs h with
  | unread hunread =>
    rw [Reacts.past_eq hunread, hpast, List.mem_singleton] at hread
    cases hread
  | nobody hreads hnobody => exact ⟨rfl, hreads.2.1⟩
  | alive hreads hold => exact absurd hold (hown hreads)
  | gone hreads hold => exact absurd hold (hown hreads)

/-! ## What is left alone -/

/-- Whatever does not write files leaves them alone. -/
theorem files_of_runs {α : Type} {p : Procedure α} {may : Question → Prop} (hp : OnlyAsks may p)
    (hmay : ∀ path text, ¬ may (.overwrite path text)) {a : α}
    (h : Runs (Reacts pod) p s a s') : s'.files = s.files := by
  refine hp.keeps (I := fun t => t.files = s.files) (fun q t x t' hq hreact ht => ?_) h rfl
  refine (hreact.files_of_not_overwrite fun path text hwrite => ?_).trans ht
  exact hmay path text (hwrite ▸ hq)

theorem comesUp_files {timeout : Span} {up : Bool}
    (h : Runs (Reacts pod) (b.comesUp timeout) s up s') : s'.files = s.files :=
  files_of_runs (b.onlyAsks_comesUp timeout) (fun _ _ h => nomatch h) h

theorem commit_files {a : Attempt Unit} (h : Runs (Reacts pod) b.commit s a s') :
    s'.files = s.files := by
  refine files_of_runs b.onlyAsks_commit (fun path text h => ?_) h
  rcases h with h | ⟨span, h⟩ <;> cases h

/-- While it waits to come up, a node does not call the store. -/
theorem comesUp_past {timeout : Span} {up : Bool}
    (h : Runs (Reacts pod) (b.comesUp timeout) s up s') {e : Exchange Answer} (he : e ∈ s'.past) :
    e ∈ s.past ∨ e.1.isCall = false := by
  refine (b.onlyAsks_comesUp timeout).keeps
    (I := fun t => ∀ e ∈ t.past, e ∈ s.past ∨ e.1.isCall = false)
    (fun q t x t' hq hreact ht e he => ?_) h (fun e he => Or.inl he) e he
  rw [hreact.past_eq] at he
  rcases List.mem_cons.mp he with rfl | he
  · exact Or.inr (Question.not_isCall_of_isIdle hq)
  · exact ht e he

theorem writeMarker_ok {text : String} (h : Runs (Reacts pod) (b.writeMarker text) s (.ok ()) s') :
    s'.store = s.store ∧ s'.files =
      Function.update s.files b.settings.replaceIpFile (some (.file (Text.encode text))) := by
  unfold writeMarker at h
  obtain ⟨x, s₁, hwrite, h⟩ := Plan.runs_bind.mp h
  obtain ⟨hfiles, hstore, -⟩ := Plan.runs_request.mp hwrite
  rcases hfiles with ⟨rfl, hfiles⟩ | ⟨⟨root, rfl⟩, -⟩
  · obtain ⟨-, rfl⟩ := Plan.runs_done.mp h
    exact ⟨hstore, hfiles⟩
  · cases (Plan.runs_done.mp h).1

theorem writeMarker_error {text : String} {f : Fault}
    (h : Runs (Reacts pod) (b.writeMarker text) s (.error f) s') : s'.files = s.files ∧
      ∀ address, f.kind ≠ .rejoinTimeout address := by
  unfold writeMarker at h
  obtain ⟨x, s₁, hwrite, h⟩ := Plan.runs_bind.mp h
  obtain ⟨hfiles, hstore, -⟩ := Plan.runs_request.mp hwrite
  rcases hfiles with ⟨rfl, -⟩ | ⟨⟨root, rfl⟩, hfiles⟩
  · cases (Plan.runs_done.mp h).1
  · obtain ⟨hf, rfl⟩ := Plan.runs_done.mp h
    cases hf
    exact ⟨hfiles, fun address h => nomatch h⟩

end Scene

/-! ## The order -/

/-- A file is only written to clear the marker, and only right after a commit has succeeded. -/
def ClearsAfterCommit (b : Bootstrap) (q : Question) (past : List (Exchange Answer)) : Prop :=
  ∀ path text, q = .overwrite path text → path = b.settings.replaceIpFile ∧ text = "" ∧
    ∃ before, Runs Notes (inStore (b.registry.commit b.settings.podName b.settings.podIp)) before
      (.ok ()) past

variable {b : Bootstrap}

theorem obeys_rejoinWithin (b : Bootstrap) (timeout : Span) (past : List (Exchange Answer)) :
    Obeys b.ClearsAfterCommit past (b.rejoinWithin timeout) := by
  have hpoll : Obeys b.ClearsAfterCommit past (b.comesUp timeout) :=
    (b.onlyAsks_comesUp timeout).obeys
      (fun q past hq path text hwrite => by rw [hwrite] at hq; cases hq) past
  refine hpoll.bind fun up past₁ _ => ?_
  cases up with
  | false => trivial
  | true =>
    have hcommit : Obeys b.ClearsAfterCommit past₁ b.commit := by
      refine b.onlyAsks_commit.obeys (fun q past hq path text hwrite => ?_) past₁
      rw [hwrite] at hq
      rcases hq with hq | ⟨span, hq⟩ <;> cases hq
    refine hcommit.bind fun x past₂ hrun => ?_
    cases x with
    | error f => trivial
    | ok u =>
      refine ⟨fun path text hwrite => ?_, fun x => ?_⟩
      · cases hwrite
        exact ⟨rfl, rfl, RetryPolicy.runs_tryAgain_ok hrun⟩
      · rcases x with (root | text) | u <;> trivial

/--
**A rejoin commits before it clears the marker.** Whatever is answered, the marker is only written,
and only cleared, right after a commit of this very rejoin succeeded. Whatever others write to other
entries of the registry, and whatever calls fail:

- if the rejoin succeeds, the marker is empty, no other file has changed, and the pod's entry is its
  address; and a decision made later declines to replace anyone and leaves the files alone, if it
  can read the registry and nobody else has written the pod's entry meanwhile;
- if it fails, the files are as before; and if it fails because the node did not come up in time, it
  has not called the store.
-/
theorem rejoin_commits_first (b : Bootstrap) (hpod : b.settings.podName ≠ writerKey)
    (timeout : Span) (store : Store) (files : String → Option FileEntry) :
    Obeys b.ClearsAfterCommit [] (b.rejoinWithin timeout) ∧
    (∀ s', Runs (Scene.Reacts b.settings.podName) (b.rejoinWithin timeout) ⟨store, files, []⟩
        (.ok ()) s' →
      s'.files = Function.update files b.settings.replaceIpFile (some (.file [])) ∧
      EntryIs b.settings.podName b.settings.podIp s'.store ∧
      ∀ later later' a c, KeepsEntry b.settings.podName s'.store later.store → later.past = [] →
        Runs (Scene.Reacts b.settings.podName) b.markReplacement later a later' →
        ⟨.store (.get b.registry.name), .ok c⟩ ∈ later'.past →
        a = .ok false ∧ later'.files = later.files) ∧
    ∀ f s', Runs (Scene.Reacts b.settings.podName) (b.rejoinWithin timeout) ⟨store, files, []⟩
        (.error f) s' →
      s'.files = files ∧ ∀ address, f.kind = .rejoinTimeout address →
        ∀ e ∈ s'.past, e.1.isCall = false := by
  refine ⟨b.obeys_rejoinWithin timeout [], fun s' h => ?_, fun f s' h => ?_⟩
  · cases runs_rejoinWithin h with
    | committed hup hcommit hwrite =>
      obtain ⟨hstore, hfiles⟩ := Scene.writeMarker_ok hwrite
      obtain ⟨s₁, htry⟩ := RetryPolicy.runs_tryAgain_ok hcommit
      have hentry := Scene.commit_entry hpod (runs_inStore.mp htry)
      rw [← hstore] at hentry
      refine ⟨?_, hentry, fun later later' a c hkept hpast hdecide hread => ?_⟩
      · rw [hfiles, Scene.commit_files hcommit, Scene.comesUp_files hup, Text.encode_empty]
      · exact Scene.markReplacement_declines (hkept.entryIs hentry) hpast hdecide hread
  · cases runs_rejoinWithin h with
    | timedOut hup =>
      refine ⟨Scene.comesUp_files hup, fun address _ e he => ?_⟩
      exact (Scene.comesUp_past hup he).resolve_left List.not_mem_nil
    | notCommitted hup hcommit =>
      refine ⟨(Scene.commit_files hcommit).trans (Scene.comesUp_files hup), fun address h => ?_⟩
      cases h
    | committed hup hcommit hwrite =>
      obtain ⟨hfiles, hkind⟩ := Scene.writeMarker_error hwrite
      refine ⟨hfiles.trans ((Scene.commit_files hcommit).trans (Scene.comesUp_files hup)), ?_⟩
      exact fun address h => absurd h (hkind address)

/-! ## A rejoin without failures -/

namespace Scene

/-- Runs a procedure on the registry while nobody else writes to it and no call fails. -/
def quietly {α : Type} : Registry.Procedure α → Scene → α × Scene
  | .done a, s => (a, s)
  | .ask call next, s =>
    quietly (next (s.store.answer call).1)
      ⟨(s.store.answer call).2, s.files, ⟨.store call, (s.store.answer call).1⟩ :: s.past⟩

theorem runs_quietly {α : Type} (pod : String) (p : Registry.Procedure α) (s : Scene) :
    Runs (Calls pod) p s (quietly p s).1 (quietly p s).2 := by
  induction p generalizing s with
  | done a => exact .done a s
  | ask call next ih =>
    refine .ask ?_ (ih _ _)
    exact ⟨⟨s.store, fun c hc => ⟨c, hc, rfl⟩, Or.inl ⟨rfl, rfl⟩⟩, rfl, rfl⟩

end Scene

def joiningStart : Scene := ⟨beforeJoining.store, fun _ => none, []⟩

def joiningUp : Scene :=
  { joiningStart with past := [⟨.ownStatus .zero, .finished .zero (.ok upReport)⟩] }

def joiningCommitted : Attempt Unit × Scene :=
  Scene.quietly (joining.registry.commit "node-0" "10.0.0.9") joiningUp

def joiningCleared : Scene where
  store := joiningCommitted.2.store
  files := Function.update joiningCommitted.2.files "replace.ip" (some (.file (Text.encode "")))
  past := ⟨.overwrite "replace.ip" "", .ok ()⟩ :: joiningCommitted.2.past

theorem runs_joining_clears :
    Runs (Scene.Reacts "node-0") (joining.rejoinWithin .zero) joiningStart (.ok ())
      joiningCleared := by
  have hup : Runs (Scene.Reacts "node-0") (joining.comesUp .zero) joiningStart true joiningUp :=
    runs_comesUp isUpBy_upReport (by decide) rfl
  have hcommit : Runs (Scene.Reacts "node-0") joining.commit joiningUp joiningCommitted.1
      joiningCommitted.2 := runs_inStore.mpr (Scene.runs_quietly "node-0" _ joiningUp)
  rw [show joiningCommitted.1 = .ok () from rfl] at hcommit
  have hmarker : Runs (Scene.Reacts "node-0") (joining.writeMarker "") joiningCommitted.2 (.ok ())
      joiningCleared :=
    Plan.runs_bind.mpr
      ⟨.ok (), joiningCleared, Plan.runs_request.mpr ⟨Or.inl ⟨rfl, rfl⟩, rfl, rfl⟩, .done _ _⟩
  unfold rejoinWithin
  refine Plan.runs_bind.mpr ⟨true, joiningUp, hup, ?_⟩
  exact Plan.runs_bind.mpr ⟨.ok (), joiningCommitted.2, hcommit, hmarker⟩

theorem rejoin_commits_first_joining :
    joining.settings.podName ≠ writerKey ∧
      joiningCleared.files "replace.ip" = some (.file []) ∧
      EntryIs "node-0" "10.0.0.9" joiningCleared.store := by
  have hpod : joining.settings.podName ≠ writerKey := by decide
  obtain ⟨-, hok, -⟩ :=
    rejoin_commits_first joining hpod .zero joiningStart.store joiningStart.files
  obtain ⟨hfiles, hentry, -⟩ := hok joiningCleared runs_joining_clears
  refine ⟨hpod, ?_, hentry⟩
  rw [hfiles]
  exact Function.update_self ..

end Bootstrap

end RingKeeper
