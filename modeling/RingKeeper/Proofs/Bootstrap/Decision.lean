import RingKeeper.Proofs.Bootstrap.OldNode

/-!
# When a node decides to replace

What comes of a decision, by the address that it reads, by what it finds at that address, and by the
files.

1. `Surroundings` fixes what is answered: the store may refuse to be read, files may not let
   themselves be opened, nor even looked up, and nodes answer anything, by all that was asked
   before.
2. `Surroundings.findsAlive_iff` says what a probe finds, and `Surroundings.Comes` lists what a
   decision comes to; `Surroundings.comes_of_runs` reads it off the exits.
3. `Outcome` states each outcome by its condition, and `decides_by_entry` says that these are the
   outcomes of every decision. A data directory that cannot be looked up counts as missing
   (`marks_hidden_data`).
-/

namespace RingKeeper.Bootstrap

open Plan (Exchange OnlyAsks Runs)
open Rehearsal (FileEntry)

/-! ## Surroundings -/

/-- What a node meets when it decides. -/
structure Surroundings where
  /-- How the store refuses to be called, if it does. -/
  refusal : Option Fault
  /-- Why a file cannot be opened, if it cannot. One that can be opened can be written. -/
  barred : String → Option String
  /-- Why it cannot be told what is at a path, if it cannot. -/
  hidden : String → Option String
  connects : String → List (Exchange Answer) → Attempt Unit
  commands : Admin.Target → String → List (Exchange Answer) → Attempt String

namespace Surroundings

variable {w : Surroundings} {b : Bootstrap} {oldIp : String} {s s' : Scene}

def calls (w : Surroundings) (call : Registry.Question) (store : Registry.Store) :
    Registry.Answer call × Registry.Store :=
  match w.refusal with
  | some f => (.error f, store)
  | none => store.answer call

/-- The configmap with this name, or why it cannot be read. -/
def reads (w : Surroundings) (name : String) (store : Registry.Store) : Attempt ConfigMap :=
  (w.calls (.get name) store).1

/-- Looking at the path finds something: something is there, and this can be told. -/
def FindsAt (w : Surroundings) (path : String) (files : String → Option FileEntry) : Prop :=
  w.hidden path = none ∧ (files path).isSome = true

/-- What looking at a path tells. -/
def lookUp (w : Surroundings) (path : String) (files : String → Option FileEntry) : Lookup :=
  match w.hidden path with
  | some why => .unknown why
  | none => if (files path).isSome then .present else .absent

theorem lookUp_eq_present {path : String} {files : String → Option FileEntry} :
    w.lookUp path files = .present ↔ w.FindsAt path files := by
  unfold lookUp FindsAt
  cases w.hidden path with
  | some why => simp
  | none => cases (files path).isSome <;> simp

/-- Each question has one answer, and what is asked is noted. Nobody else writes anything. -/
def Reacts (w : Surroundings) : (q : Question) → Scene → Answer q → Scene → Prop
  | .store call, s, x, s' => x = (w.calls call s.store).1 ∧
    s' = ⟨(w.calls call s.store).2, s.files, ⟨.store call, x⟩ :: s.past⟩
  | .connect host, s, x, s' =>
    x = w.connects host s.past ∧ s' = { s with past := ⟨.connect host, x⟩ :: s.past }
  | .command target name, s, x, s' =>
    x = w.commands target name s.past ∧ s' = { s with past := ⟨.command target name, x⟩ :: s.past }
  | .commandWithin limit target name, s, x, s' =>
    x = .finished .zero (w.commands target name s.past) ∧
      s' = { s with past := ⟨.commandWithin limit target name, x⟩ :: s.past }
  | .lookUp path, s, x, s' =>
    x = w.lookUp path s.files ∧ s' = { s with past := ⟨.lookUp path, x⟩ :: s.past }
  | .overwrite path text, s, x, s' =>
    (∃ root, w.barred path = some root ∧ x = .error (.unopened root) ∧
      s' = { s with past := ⟨.overwrite path text, x⟩ :: s.past }) ∨
    (w.barred path = none ∧ x = .ok () ∧
      s' = ⟨s.store, Function.update s.files path (some (.file (Text.encode text))),
        ⟨.overwrite path text, x⟩ :: s.past⟩)
  | .sleep span, s, _, s' => s' = { s with past := ⟨.sleep span, ()⟩ :: s.past }
  | .halt, _, never, _ => nomatch never

/-- With what came before, a probe reaches the node, and gets reports that have it alive. -/
def FindsAlive (w : Surroundings) (oldIp : String) (past : List (Exchange Answer)) : Prop :=
  ∃ status info, SayAlive oldIp status info ∧ w.connects oldIp past = .ok () ∧
    w.commands (.peer oldIp) Admin.statusCommand (⟨.connect oldIp, .ok ()⟩ :: past) = .ok status ∧
    w.commands (.peer oldIp) Admin.infoCommand
      (⟨.command (.peer oldIp) Admin.statusCommand, .ok status⟩ :: ⟨.connect oldIp, .ok ()⟩ :: past)
      = .ok info

/-- The settings ask for a probe, and it finds the old node alive. -/
def MeetsAlive (w : Surroundings) (b : Bootstrap) (c : ConfigMap) (oldIp : String) : Prop :=
  b.settings.shutdownOldNode = true ∧ w.FindsAlive oldIp [b.registryRead c]

/-- Every question that a decision may ask is answered. -/
theorem exists_reaction {q : Question} (hq : b.MayDecide q) (s : Scene) :
    ∃ x s', w.Reacts q s x s' := by
  rcases hq with rfl | ⟨oldIp, rfl | ⟨name, rfl⟩⟩ | rfl | ⟨text, rfl⟩
  · exact ⟨_, _, rfl, rfl⟩
  · exact ⟨_, _, rfl, rfl⟩
  · exact ⟨_, _, rfl, rfl⟩
  · exact ⟨_, _, rfl, rfl⟩
  · cases hbarred : w.barred b.settings.replaceIpFile with
    | some root => exact ⟨_, _, Or.inl ⟨root, hbarred, rfl, rfl⟩⟩
    | none => exact ⟨_, _, Or.inr ⟨hbarred, rfl, rfl⟩⟩

/-! ## The probe -/

theorem Reacts.asked {q : Question} {x : Answer q} (h : w.Reacts q s x s') :
    s'.past = ⟨q, x⟩ :: s.past := by
  cases q with
  | overwrite path text =>
    rcases h with ⟨root, -, -, rfl⟩ | ⟨-, -, rfl⟩ <;> rfl
  | sleep span => rw [show s' = _ from h]
  | halt => exact nomatch x
  | _ => rw [h.2]

theorem unchanged_of_runs {α : Type} {p : Procedure α} {a : α}
    (hp : OnlyAsks (·.IsTo oldIp) p) (h : Runs w.Reacts p s a s') :
    s'.store = s.store ∧ s'.files = s.files := by
  refine Scene.unchanged_of_asksOldNode (fun q t x t' hq hreact => ?_) hp h
  rcases hq with rfl | ⟨name, rfl⟩ <;>
  · rw [hreact.2]
    exact ⟨rfl, rfl⟩

/-- A probe finds the node alive exactly if it is answered so. -/
theorem findsAlive_iff {found : Bool} (h : ProbeEnds w.Reacts oldIp s found s') :
    found = true ↔ w.FindsAlive oldIp s.past := by
  cases h with
  | unreachable hconnect =>
    refine ⟨nofun, fun ⟨status, info, _, hconnects, _⟩ => ?_⟩
    cases hconnect.1.trans hconnects
  | silent hconnect hstatus =>
    refine ⟨nofun, fun ⟨status, info, _, hconnects, hstatus', _⟩ => ?_⟩
    rw [← hconnect.asked] at hstatus'
    cases hstatus.1.trans hstatus'
  | notNormal hconnect hstatus hreport =>
    refine ⟨nofun, fun ⟨status, info, halive, hconnects, hstatus', _⟩ => ?_⟩
    rw [← hconnect.asked] at hstatus'
    cases hstatus.1.trans hstatus'
    rw [Ring.isUpAndNormal_iff.mpr halive.1] at hreport
    cases hreport
  | quiet hconnect hstatus hreport hinfo hquiet =>
    refine ⟨nofun, fun ⟨status, info, halive, hconnects, hstatus', hinfo'⟩ => ?_⟩
    rw [← hconnect.asked] at hstatus' hinfo'
    cases hstatus.1.trans hstatus'
    rw [← hstatus.asked] at hinfo'
    exact absurd (gossipOf_eq_true.mpr ⟨info, hinfo.1.trans hinfo', halive.2⟩) hquiet
  | @alive report x s₁ s₂ _ hconnect hstatus hreport hinfo hgossip =>
    obtain ⟨info, rfl, hactive⟩ := gossipOf_eq_true.mp hgossip
    refine ⟨fun _ => ⟨report, info, ⟨Ring.isUpAndNormal_iff.mp hreport, hactive⟩, ?_, ?_, ?_⟩,
      fun _ => rfl⟩
    · exact hconnect.1.symm
    · rw [← hconnect.asked]
      exact hstatus.1.symm
    · rw [← hconnect.asked, ← hstatus.asked]
      exact hinfo.1.symm

/-! ## The outcomes -/

/-- What a decision comes to that has read this configmap, and which files it leaves. -/
inductive Comes (w : Surroundings) (b : Bootstrap) (c : ConfigMap)
    (files : String → Option FileEntry) : Attempt Bool → (String → Option FileEntry) → Prop where
  | nobody (hnobody : ∀ oldIp, ¬ b.HasOld c oldIp) : Comes w b c files (.ok false) files
  | alive {oldIp : String} (hold : b.HasOld c oldIp) (halive : w.MeetsAlive b c oldIp) :
    Comes w b c files (.error (.ofKind (.oldNodeStillRunning oldIp))) files
  | bootstrapped {oldIp : String} (hold : b.HasOld c oldIp) (hgone : ¬ w.MeetsAlive b c oldIp)
    (hfound : w.FindsAt b.settings.systemDataDir files) : Comes w b c files (.ok false) files
  | unopened {oldIp root : String} (hold : b.HasOld c oldIp) (hgone : ¬ w.MeetsAlive b c oldIp)
    (hnew : ¬ w.FindsAt b.settings.systemDataDir files)
    (hbarred : w.barred b.settings.replaceIpFile = some root) : Comes w b c files
      (.error (.causedBy (.message s!"failed to open {b.settings.replaceIpFile}") root)) files
  | marked {oldIp : String} (hold : b.HasOld c oldIp) (hgone : ¬ w.MeetsAlive b c oldIp)
    (hnew : ¬ w.FindsAt b.settings.systemDataDir files)
    (hopens : w.barred b.settings.replaceIpFile = none) : Comes w b c files (.ok true)
      (Function.update files b.settings.replaceIpFile (some (.file (Text.encode oldIp))))

theorem not_meetsAlive {c : ConfigMap} (h : FindsNobody w.Reacts b oldIp s s')
    (hpast : s.past = [b.registryRead c]) : ¬ w.MeetsAlive b c oldIp := by
  rintro ⟨hsettings, halive⟩
  cases h with
  | unasked hsettings' =>
    rw [hsettings] at hsettings'
    cases hsettings'
  | probed _ hprobe =>
    rw [← hpast] at halive
    cases (findsAlive_iff hprobe).mpr halive

theorem comes_of_marks {c : ConfigMap} {a : Attempt Bool} (hold : b.HasOld c oldIp)
    (hgone : ¬ w.MeetsAlive b c oldIp) (h : MarkEnds w.Reacts b oldIp s a s') :
    s'.store = s.store ∧ w.Comes b c s.files a s'.files := by
  have hunfound {found : Lookup} (hlook : found = w.lookUp b.settings.systemDataDir s.files)
      (hnew : found ≠ .present) : ¬ w.FindsAt b.settings.systemDataDir s.files :=
    fun hfound => hnew (hlook.trans (lookUp_eq_present.mpr hfound))
  cases h with
  | bootstrapped hlook =>
    obtain ⟨hlook, rfl⟩ := hlook
    exact ⟨rfl, .bootstrapped hold hgone (lookUp_eq_present.mp hlook.symm)⟩
  | unopened hlook hnew hwrite =>
    obtain ⟨hlook, rfl⟩ := hlook
    rcases hwrite with ⟨root, hbarred, hroot, rfl⟩ | ⟨-, hx, -⟩
    · cases hroot
      exact ⟨rfl, .unopened hold hgone (hunfound hlook hnew) hbarred⟩
    · cases hx
  | unwritten hlook hnew hwrite =>
    rcases hwrite with ⟨root, -, hx, -⟩ | ⟨-, hx, -⟩ <;> cases hx
  | marked hlook hnew hwrite =>
    obtain ⟨hlook, rfl⟩ := hlook
    rcases hwrite with ⟨root, -, hx, -⟩ | ⟨hopens, -, rfl⟩
    · cases hx
    · exact ⟨rfl, .marked hold hgone (hunfound hlook hnew) hopens⟩

theorem calls_get (name : String) (store : Registry.Store) :
    w.calls (.get name) store = (w.reads name store, store) := by
  unfold reads calls
  cases w.refusal <;> rfl

/-- A decision fails to read the registry, or it comes to one of these. -/
theorem comes_of_runs {store : Registry.Store} {files : String → Option FileEntry}
    {a : Attempt Bool} (h : Runs w.Reacts b.markReplacement ⟨store, files, []⟩ a s') :
    s'.store = store ∧
      ((∃ f, w.reads b.registry.name store = .error f ∧ a = .error f ∧ s'.files = files) ∨
        ∃ c, w.reads b.registry.name store = .ok c ∧ w.Comes b c files a s'.files) := by
  have hread {x : Attempt ConfigMap} {s₁ : Scene}
      (h : w.Reacts (.store (.get b.registry.name)) ⟨store, files, []⟩ x s₁) :
      w.reads b.registry.name store = x ∧
        s₁ = ⟨store, files, [⟨.store (.get b.registry.name), x⟩]⟩ := by
    obtain ⟨rfl, rfl⟩ := h
    rw [calls_get]
    exact ⟨rfl, rfl⟩
  cases decisionEnds_of_runs h with
  | unread hunread =>
    obtain ⟨hreads, rfl⟩ := hread hunread
    exact ⟨rfl, Or.inl ⟨_, hreads, rfl, rfl⟩⟩
  | nobody hread' hnobody =>
    obtain ⟨hreads, rfl⟩ := hread hread'
    exact ⟨rfl, Or.inr ⟨_, hreads, .nobody hnobody⟩⟩
  | alive hread' hold hsettings hprobe hdown =>
    obtain ⟨hreads, rfl⟩ := hread hread'
    obtain ⟨hstore, hfiles⟩ := unchanged_of_runs (asksOldNode_isOldNodeAlive _) hprobe.runs
    obtain ⟨hstore', hfiles'⟩ := unchanged_of_runs (asksOldNode_shutDownOldNode _) hdown.runs
    refine ⟨hstore'.trans hstore, Or.inr ⟨_, hreads, ?_⟩⟩
    rw [hfiles'.trans hfiles]
    exact .alive hold ⟨hsettings, (findsAlive_iff hprobe).mp rfl⟩
  | gone hread' hold hfind hmark =>
    obtain ⟨hreads, rfl⟩ := hread hread'
    obtain ⟨hstore, hfiles⟩ := unchanged_of_runs (b.asksOldNode_findOldNode _) hfind.runs
    obtain ⟨hstore', hcomes⟩ := comes_of_marks hold (not_meetsAlive hfind rfl) hmark
    rw [hfiles] at hcomes
    exact ⟨hstore'.trans hstore, Or.inr ⟨_, hreads, hcomes⟩⟩

end Surroundings

/-- There is no old address if the entry is missing, or empty, or the node's address now. -/
theorem not_hasOld_iff {b : Bootstrap} {c : ConfigMap} :
    (∀ oldIp, ¬ b.HasOld c oldIp) ↔ c.dataAt? b.settings.podName = none ∨
      c.dataAt? b.settings.podName = some "" ∨
      c.dataAt? b.settings.podName = some b.settings.podIp := by
  unfold HasOld
  cases c.dataAt? b.settings.podName with
  | none => simp
  | some ip => grind

/-- There is one old address, and what holds of some or of all holds of this one. -/
theorem HasOld.unique {b : Bootstrap} {c : ConfigMap} {oldIp oldIp' : String}
    (h : b.HasOld c oldIp) (h' : b.HasOld c oldIp') : oldIp' = oldIp :=
  Option.some.inj (h'.1.symm.trans h.1)

theorem HasOld.exists_iff {b : Bootstrap} {c : ConfigMap} {oldIp : String} {P : String → Prop}
    (h : b.HasOld c oldIp) : (∃ ip, b.HasOld c ip ∧ P ip) ↔ P oldIp :=
  ⟨fun ⟨_, hold, hP⟩ => h.unique hold ▸ hP, fun hP => ⟨oldIp, h, hP⟩⟩

theorem HasOld.forall_iff {b : Bootstrap} {c : ConfigMap} {oldIp : String} {P : String → Prop}
    (h : b.HasOld c oldIp) : (∀ ip, b.HasOld c ip → P ip) ↔ P oldIp :=
  ⟨fun hP => hP oldIp h, fun hP _ hold => h.unique hold ▸ hP⟩

/-- The outcomes of a decision that has read this configmap, each by its condition. -/
structure Outcome (b : Bootstrap) (w : Surroundings) (c : ConfigMap)
    (files : String → Option FileEntry) (a : Attempt Bool) (files' : String → Option FileEntry) :
    Prop where
  marks : a = .ok true ↔ ∃ oldIp, b.HasOld c oldIp ∧ ¬ w.MeetsAlive b c oldIp ∧
    ¬ w.FindsAt b.settings.systemDataDir files ∧ w.barred b.settings.replaceIpFile = none
  /-- The marker is exactly the address, and nothing else is written. -/
  marked : a = .ok true → ∃ oldIp, b.HasOld c oldIp ∧
    files' = Function.update files b.settings.replaceIpFile (some (.file (Text.encode oldIp)))
  declines : a = .ok false ↔
    (c.dataAt? b.settings.podName = none ∨ c.dataAt? b.settings.podName = some "" ∨
      c.dataAt? b.settings.podName = some b.settings.podIp) ∨
    ∃ oldIp, b.HasOld c oldIp ∧ ¬ w.MeetsAlive b c oldIp ∧
      w.FindsAt b.settings.systemDataDir files
  stillRunning : ∀ oldIp, b.HasOld c oldIp → w.MeetsAlive b c oldIp →
    a = .error (.ofKind (.oldNodeStillRunning oldIp))
  unopened : ∀ oldIp, b.HasOld c oldIp → ¬ w.MeetsAlive b c oldIp →
    ¬ w.FindsAt b.settings.systemDataDir files →
    ∀ root, w.barred b.settings.replaceIpFile = some root →
      a = .error (.causedBy (.message s!"failed to open {b.settings.replaceIpFile}") root)
  unmarked : a ≠ .ok true → files' = files

theorem Surroundings.Comes.outcome {w : Surroundings} {b : Bootstrap} {c : ConfigMap}
    {files files' : String → Option FileEntry} {a : Attempt Bool}
    (h : w.Comes b c files a files') : b.Outcome w c files a files' := by
  have hentry {oldIp : String} (hold : b.HasOld c oldIp) : ¬ (c.dataAt? b.settings.podName = none ∨
      c.dataAt? b.settings.podName = some "" ∨
      c.dataAt? b.settings.podName = some b.settings.podIp) :=
    fun h => not_hasOld_iff.mpr h oldIp hold
  cases h with
  | nobody hnobody => exact {
      marks := ⟨nofun, fun ⟨oldIp, hold, _⟩ => absurd hold (hnobody oldIp)⟩
      marked := nofun
      declines := ⟨fun _ => Or.inl (not_hasOld_iff.mp hnobody), fun _ => rfl⟩
      stillRunning := fun oldIp hold => absurd hold (hnobody oldIp)
      unopened := fun oldIp hold => absurd hold (hnobody oldIp)
      unmarked := fun _ => rfl }
  | alive hold halive => exact {
      marks := ⟨nofun, fun h => absurd halive (hold.exists_iff.mp h).1⟩
      marked := nofun
      declines := ⟨nofun, fun h =>
        absurd halive (hold.exists_iff.mp (h.resolve_left (hentry hold))).1⟩
      stillRunning := hold.forall_iff.mpr fun _ => rfl
      unopened := hold.forall_iff.mpr fun hgone => absurd halive hgone
      unmarked := fun _ => rfl }
  | bootstrapped hold hgone hfound => exact {
      marks := ⟨nofun, fun h => absurd hfound (hold.exists_iff.mp h).2.1⟩
      marked := nofun
      declines := ⟨fun _ => Or.inr ⟨_, hold, hgone, hfound⟩, fun _ => rfl⟩
      stillRunning := hold.forall_iff.mpr fun halive => absurd halive hgone
      unopened := hold.forall_iff.mpr fun _ hnew => absurd hfound hnew
      unmarked := fun _ => rfl }
  | unopened hold hgone hnew hbarred => exact {
      marks := ⟨nofun, fun h => by
        rw [(hold.exists_iff.mp h).2.2] at hbarred
        cases hbarred⟩
      marked := nofun
      declines := ⟨nofun, fun h =>
        absurd (hold.exists_iff.mp (h.resolve_left (hentry hold))).2 hnew⟩
      stillRunning := hold.forall_iff.mpr fun halive => absurd halive hgone
      unopened := hold.forall_iff.mpr fun _ _ root hroot => by
        cases hbarred.symm.trans hroot
        rfl
      unmarked := fun _ => rfl }
  | marked hold hgone hnew hopens => exact {
      marks := ⟨fun _ => ⟨_, hold, hgone, hnew, hopens⟩, fun _ => rfl⟩
      marked := fun _ => ⟨_, hold, rfl⟩
      declines := ⟨nofun, fun h =>
        absurd (hold.exists_iff.mp (h.resolve_left (hentry hold))).2 hnew⟩
      stillRunning := hold.forall_iff.mpr fun halive => absurd halive hgone
      unopened := hold.forall_iff.mpr fun _ _ root hroot => by cases hopens.symm.trans hroot
      unmarked := fun h => absurd rfl h }

/--
**When a node decides to replace.** Whatever is in the registry and in the files, and whatever is
answered, a decision comes to its end; it leaves the registry alone, and asks nodes only if the
settings say so. If the registry cannot be read, it fails as the store did and leaves the files
alone. Otherwise its outcomes are those of `Outcome`.
-/
theorem decides_by_entry (b : Bootstrap) (w : Surroundings) (store : Registry.Store)
    (files : String → Option FileEntry) :
    (∃ a s', Runs w.Reacts b.markReplacement ⟨store, files, []⟩ a s') ∧
    ∀ a s', Runs w.Reacts b.markReplacement ⟨store, files, []⟩ a s' →
      s'.store = store ∧
      (∀ e ∈ s'.past, (∀ c, e.1 ≠ .store (.replace c)) ∧
        (e.1.isToNode = true → b.settings.shutdownOldNode = true)) ∧
      (∀ f, w.reads b.registry.name store = .error f → a = .error f ∧ s'.files = files) ∧
      ∀ c, w.reads b.registry.name store = .ok c → b.Outcome w c files a s'.files := by
  refine ⟨b.onlyAsks_markReplacement.exists_run (fun q s hq => Surroundings.exists_reaction hq s) _,
    fun a s' h => ?_⟩
  obtain ⟨hstore, hcomes⟩ := Surroundings.comes_of_runs h
  refine ⟨hstore, fun e he => ?_, fun f hf => ?_, fun c hc => ?_⟩
  · have hnoted (q : Question) (t : Scene) (x : Answer q) (t' : Scene) (h : w.Reacts q t x t') :
        t'.past = ⟨q, x⟩ :: t.past := h.asked
    have hnotes : Runs Plan.Notes b.markReplacement [] a s'.past := h.notes hnoted
    refine ⟨fun c hreplace => ?_, fun htoNode => ?_⟩
    · obtain ⟨asked, hpast, hasked⟩ := b.onlyAsks_markReplacement.noted hnotes
      rw [hpast, List.append_nil] at he
      have hmay := hasked e he
      rw [hreplace] at hmay
      rcases hmay with h | ⟨oldIp, h | ⟨name, h⟩⟩ | h | ⟨text, h⟩ <;> cases h
    · obtain ⟨before, hmay⟩ :=
        ((b.mayAsk_markReplacement []).noted hnotes he).resolve_left List.not_mem_nil
      exact (hmay.toOld htoNode).1
  · rcases hcomes with ⟨f', hf', rfl, hfiles⟩ | ⟨c, hc, -⟩
    · cases hf.symm.trans hf'
      exact ⟨rfl, hfiles⟩
    · cases hf.symm.trans hc
  · rcases hcomes with ⟨f, hf, -⟩ | ⟨c', hc', hcomes⟩
    · cases hc.symm.trans hf
    · cases hc.symm.trans hc'
      exact hcomes.outcome

/-- Nodes are out of reach, and everything else can be done. -/
def unreachableNodes : Surroundings where
  refusal := none
  barred _ := none
  hidden _ := none
  connects _ _ := .error (.message "no route")
  commands _ _ _ := .error (.message "no route")

theorem decides_by_entry_relieving :
    ∃ s', Runs unreachableNodes.Reacts relieving.markReplacement
        ⟨stoppedLate.store, fun _ => none, []⟩ (.ok true) s' ∧
      s'.files "replace.ip" = some (.file (Text.encode "10.0.0.5")) := by
  have hold : relieving.HasOld (movedRegistry.atVersion 1) "10.0.0.5" :=
    ⟨rfl, by decide, by decide⟩
  have hgone : ¬ unreachableNodes.MeetsAlive relieving (movedRegistry.atVersion 1) "10.0.0.5" := by
    rintro ⟨-, status, info, -, hconnects, -⟩
    cases hconnects
  have hnew : ¬ unreachableNodes.FindsAt relieving.settings.systemDataDir fun _ => none := by
    rintro ⟨-, hfound⟩
    cases hfound
  obtain ⟨⟨a, s', h⟩, hall⟩ :=
    decides_by_entry relieving unreachableNodes stoppedLate.store fun _ => none
  obtain ⟨-, -, -, houtcome⟩ := hall a s' h
  have hcomes := houtcome (movedRegistry.atVersion 1) rfl
  obtain rfl : a = .ok true := hcomes.marks.mpr ⟨_, hold, hgone, hnew, rfl⟩
  obtain ⟨oldIp, hold', hfiles⟩ := hcomes.marked rfl
  obtain rfl := hold.unique hold'
  refine ⟨s', h, ?_⟩
  rw [hfiles]
  exact Function.update_self ..

/-! ## A data directory that cannot be looked up -/

/-- The data directory lies where the node may not look. -/
def hiddenData : Surroundings :=
  { unreachableNodes with hidden := fun path => if path = "data" then some "denied" else none }

/-- A node that has bootstrapped, and has no marker. -/
def settledNode : Scene where
  store := stoppedLate.store
  files := fun path => if path = "data" then some .directory else none
  past := []

/-- The node after it has marked its old address. -/
def markedNode : Scene where
  store := settledNode.store
  files := Function.update settledNode.files "replace.ip" (some (.file (Text.encode "10.0.0.5")))
  past := [⟨.overwrite "replace.ip" "10.0.0.5", .ok ()⟩, ⟨.lookUp "data", .unknown "denied"⟩,
    movedRead]

/-- The node has bootstrapped, and is told to replace itself. -/
theorem marks_hidden_data :
    (settledNode.files joining.settings.systemDataDir).isSome = true ∧
      settledNode.files joining.settings.replaceIpFile = none ∧
      Runs hiddenData.Reacts joining.markReplacement settledNode (.ok true) markedNode ∧
      markedNode.files joining.settings.replaceIpFile = some (.file (Text.encode "10.0.0.5")) := by
  have hread : hiddenData.Reacts (.store (.get joining.registry.name)) settledNode
      (.ok (movedRegistry.atVersion 1)) { settledNode with past := [movedRead] } := ⟨rfl, rfl⟩
  have hmark : MarkEnds hiddenData.Reacts joining "10.0.0.5"
      { settledNode with past := [movedRead] } (.ok true) markedNode :=
    .marked ⟨rfl, rfl⟩ (by decide) (Or.inr ⟨rfl, rfl, rfl⟩)
  have hrun := (DecisionEnds.gone hread hasOld_movedRegistry (.unasked rfl) hmark).runs
  exact ⟨rfl, rfl, hrun, rfl⟩

end RingKeeper.Bootstrap
