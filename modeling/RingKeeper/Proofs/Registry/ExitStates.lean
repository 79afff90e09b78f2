import Mathlib.Data.List.Basic
import RingKeeper.Proofs.Registry.Faults

/-!
# How the lock operations leave the registry

One client works on the registry, and each of its calls to the store may fail, with any fault.

1. `Journal.Reacts` is how the store reacts to a call, and a `Journal` remembers what came of each.
2. `acquire_exit` says how taking the lock leaves the configmap. `Released` lists the ways in which
   freeing it may end, and `runs_release` says that these are all.
3. `Parts` are the parts of a commit: taking the lock, the write, and freeing the lock again.
4. `exit_states` puts these together.
-/

namespace RingKeeper.Registry

/-- A call to the store, and what came of it. -/
structure StoreCall where
  question : Question
  answer : Attempt ConfigMap
  /-- The call failed, and was not applied. -/
  failed : Bool

/-- A store, and the calls that were made to it, latest first. -/
structure Journal where
  store : Store
  calls : List StoreCall

/-- The store answers the call; or the call fails without effect. -/
def Journal.Reacts (q : Question) (j : Journal) (x : Answer q) (j' : Journal) : Prop :=
  (x = (j.store.answer q).1 ∧ j' = ⟨(j.store.answer q).2, ⟨q, x, false⟩ :: j.calls⟩) ∨
    ∃ f, x = .error f ∧ j' = ⟨j.store, ⟨q, x, true⟩ :: j.calls⟩

def Journal.ledger (j : Journal) : Ledger :=
  ⟨j.store, j.calls.map fun call => (call.question, call.failed)⟩

theorem Journal.Reacts.ledger {q : Question} {j j' : Journal} {x : Answer q}
    (h : Reacts q j x j') : Registry.Reacts q j.ledger x j'.ledger := by
  rcases h with ⟨hx, rfl⟩ | ⟨f, hx, rfl⟩
  · exact Or.inl ⟨hx, rfl⟩
  · exact Or.inr ⟨f, hx, rfl⟩

/-- A read that failed, and reports that there is no such configmap. -/
def StoreCall.ReportsMissing (call : StoreCall) : Prop :=
  ∃ asked f name, call = ⟨.get asked, .error f, true⟩ ∧ f.kind = .registryNotFound name

/-- A replacement that was applied and has freed the lock. -/
def StoreCall.Clears (call : StoreCall) : Prop :=
  ∃ (c left : ConfigMap), call = ⟨.replace (c.lockFor ""), .ok left, false⟩

/-- The lock of the configmap is set, and only its version is changed besides. -/
structure LockSet (before after : ConfigMap) (holder : String) : Prop where
  lock : after.lockedBy = holder
  annotations : ∀ key, key ≠ lockKey →
    after.metadata.annotations.bind (·.get? key) = before.metadata.annotations.bind (·.get? key)
  rest : { after with metadata := { after.metadata with
      annotations := before.metadata.annotations
      resourceVersion := before.metadata.resourceVersion } } = before

theorem lockSet_lockFor (c : ConfigMap) (holder : String) (version : Nat) :
    LockSet c ((c.lockFor holder).atVersion version) holder where
  lock := by rw [ConfigMap.lockedBy_atVersion, ConfigMap.lockedBy_lockFor]
  annotations key hkey := by
    show ((c.metadata.annotations.getD .empty).insert lockKey holder).get? key = _
    rw [Table.get?_insert_of_ne _ _ hkey.symm]
    cases c.metadata.annotations <;> rfl
  rest := rfl

variable {r : Registry} {holder pod address : String} {j j' : Journal}

/-! ## Taking the lock -/

open Plan (Runs runs_bind runs_done runs_request)

/-- Either the lock is set, or the store is as it was. -/
theorem acquire_exit {x : Attempt Guard} (h : Runs Journal.Reacts (r.acquire holder) j x j') :
    ((∃ f, x = .error f) ∧ j'.store = j.store) ∨
      x = .ok ⟨r, holder⟩ ∧ ∃ c c', j.store.configMap? = some c ∧ c.metadata.name = some r.name ∧
        j'.store.configMap? = some c' ∧ LockSet c c' holder := by
  have hl : Runs Reacts (r.acquire holder) j.ledger x j'.ledger :=
    h.map fun q s x s' hreact => hreact.ledger
  unfold acquire at hl
  obtain ⟨y, l₁, hget, hl⟩ := runs_bind.mp hl
  have hstore := reacts_get_store (runs_request.mp hget)
  cases y with
  | error f =>
    obtain ⟨rfl, hend⟩ := runs_done.mp hl
    exact Or.inl ⟨⟨f, rfl⟩, (congrArg Ledger.store hend).trans hstore⟩
  | ok c =>
    obtain ⟨hc, -⟩ := reacts_get_ok (runs_request.mp hget)
    dsimp only at hl
    split at hl
    · obtain ⟨rfl, hend⟩ := runs_done.mp hl
      exact Or.inl ⟨⟨_, rfl⟩, (congrArg Ledger.store hend).trans hstore⟩
    obtain ⟨y, l₂, hreplace, hl⟩ := runs_bind.mp hl
    cases y with
    | ok left =>
      obtain ⟨rfl, hend⟩ := runs_done.mp hl
      obtain ⟨d, version, hstored, rfl, hname⟩ := Store.get_ok hc
      obtain ⟨hr, -⟩ := reacts_replace_ok (runs_request.mp hreplace)
      obtain ⟨e, n, -, -, -, hafter⟩ := Store.replace_ok hr
      have hleft : j'.store.stored = some ((d.atVersion version).lockFor holder, n + 1) :=
        congrArg Store.stored ((congrArg Ledger.store hend).trans hafter)
      exact Or.inr ⟨rfl, _, _, Store.configMap?_eq hstored, hname, Store.configMap?_eq hleft,
        lockSet_lockFor _ holder _⟩
    | error f =>
      -- the lock was lost to another, as it seems; whatever is read then, nothing was written
      have hkept := (reacts_replace_error (runs_request.mp hreplace)).trans hstore
      dsimp only at hl
      split at hl
      · obtain ⟨y, l₃, hget', hl⟩ := runs_bind.mp hl
        have hstore' := (reacts_get_store (runs_request.mp hget')).trans hkept
        cases y with
        | error f =>
          obtain ⟨rfl, hend⟩ := runs_done.mp hl
          exact Or.inl ⟨⟨f, rfl⟩, (congrArg Ledger.store hend).trans hstore'⟩
        | ok c =>
          dsimp only at hl
          split at hl <;>
          · obtain ⟨rfl, hend⟩ := runs_done.mp hl
            exact Or.inl ⟨⟨_, rfl⟩, (congrArg Ledger.store hend).trans hstore'⟩
      · obtain ⟨rfl, hend⟩ := runs_done.mp hl
        exact Or.inl ⟨⟨_, rfl⟩, (congrArg Ledger.store hend).trans hkept⟩

/-! ## Freeing the lock -/

/-- The ways in which freeing the lock may end: the answer, the calls, latest first, and the store
that is left. -/
inductive Released (r : Registry) (holder : String) (s : Store) :
    Bool → List StoreCall → Store → Prop where
  | unread {f : Fault} (hkind : ∀ name, f.kind ≠ .registryNotFound name) :
    Released r holder s false [⟨.get r.name, .error f, true⟩] s
  | reportedMissing {f : Fault} {name : String} (hkind : f.kind = .registryNotFound name) :
    Released r holder s true [⟨.get r.name, .error f, true⟩] s
  | missing {f : Fault} (hget : s.get r.name = .error f) :
    Released r holder s true [⟨.get r.name, .error f, false⟩] s
  | others {c : ConfigMap} (hget : s.get r.name = .ok c) (hlock : c.lockedBy ≠ holder) :
    Released r holder s true [⟨.get r.name, .ok c, false⟩] s
  | kept {c : ConfigMap} {f : Fault} (hget : s.get r.name = .ok c) (hlock : c.lockedBy = holder) :
    Released r holder s false
      [⟨.replace (c.lockFor ""), .error f, true⟩, ⟨.get r.name, .ok c, false⟩] s
  | cleared {c left : ConfigMap} {version : Nat} (hget : s.get r.name = .ok c)
    (hlock : c.lockedBy = holder) :
    Released r holder s true
      [⟨.replace (c.lockFor ""), .ok left, false⟩, ⟨.get r.name, .ok c, false⟩]
      ⟨some (c.lockFor "", version)⟩

/-- Reading what the store does not have is reported as that. -/
theorem Store.kind_of_get_error {s : Store} {name : String} {f : Fault}
    (h : s.get name = .error f) : f.kind = .registryNotFound name := by
  unfold Store.get at h
  split at h
  · split at h <;> cases h
    rfl
  · cases h
    rfl

/-- The store takes back what was read from it, under the next version. -/
theorem Store.replace_read {s : Store} {c d : ConfigMap} {name : String} (h : s.get name = .ok c)
    (hname : d.metadata.name = c.metadata.name)
    (hversion : d.metadata.resourceVersion = c.metadata.resourceVersion) :
    ∃ version, s.replace d = (.ok (d.atVersion version), ⟨some (d, version)⟩) := by
  obtain ⟨stored, version, hstored, rfl, hstoredName⟩ := Store.get_ok h
  have hdname : d.metadata.name = some name := hname.trans hstoredName
  refine ⟨version + 1, Store.replace_stored hstored ?_ hversion⟩
  rw [hstoredName, ConfigMap.name, Metadata.nameOrEmpty, hdname]
  rfl

theorem runs_release {freed : Bool} (h : Runs Journal.Reacts (r.release holder) j freed j') :
    ∃ calls, Released r holder j.store freed calls j'.store ∧ j'.calls = calls ++ j.calls := by
  unfold release at h
  obtain ⟨x, j₁, hget, h⟩ := runs_bind.mp h
  rcases runs_request.mp hget with ⟨hx, rfl⟩ | ⟨f, rfl, rfl⟩
  · have hread : j.store.get r.name = x := hx.symm
    cases x with
    | error f =>
      dsimp only at h
      rw [Store.kind_of_get_error hread] at h
      obtain ⟨rfl, rfl⟩ := runs_done.mp h
      exact ⟨_, .missing hread, rfl⟩
    | ok c =>
      dsimp only at h
      split at h
      · rename_i hlock
        obtain ⟨y, j₂, hreplace, h⟩ := runs_bind.mp h
        rcases runs_request.mp hreplace with ⟨hy, rfl⟩ | ⟨f, rfl, rfl⟩
        · obtain ⟨version, hreplaced⟩ := Store.replace_read (d := c.lockFor "") hread rfl rfl
          have hanswer : j.store.answer (.replace (c.lockFor "")) = _ := hreplaced
          dsimp only at hy h
          rw [show (j.store.answer (.get r.name)).2 = j.store from rfl, hanswer] at hy h
          subst hy
          obtain ⟨rfl, rfl⟩ := runs_done.mp h
          exact ⟨_, .cleared hread hlock, rfl⟩
        · obtain ⟨rfl, rfl⟩ := runs_done.mp h
          exact ⟨_, .kept hread hlock, rfl⟩
      · rename_i hlock
        obtain ⟨rfl, rfl⟩ := runs_done.mp h
        exact ⟨_, .others hread hlock, rfl⟩
  · dsimp only at h
    split at h
    · rename_i name hkind
      obtain ⟨rfl, rfl⟩ := runs_done.mp h
      exact ⟨_, .reportedMissing hkind, rfl⟩
    · rename_i hkind
      obtain ⟨rfl, rfl⟩ := runs_done.mp h
      exact ⟨_, .unread hkind, rfl⟩

namespace Released

variable {s s' : Store} {freed : Bool} {calls : List StoreCall}

/-- The lock is not freed exactly if a call failed, other than by reporting that there is nothing to
read. -/
theorem freed_iff (h : Released r holder s freed calls s') :
    freed = false ↔ ∃ call ∈ calls, call.failed = true ∧ ¬ call.ReportsMissing := by
  cases h with
  | unread hkind =>
    refine ⟨fun _ => ⟨_, List.mem_singleton.mpr rfl, rfl, ?_⟩, fun _ => rfl⟩
    rintro ⟨asked, f, name, hcall, hmissing⟩
    cases hcall
    exact hkind name hmissing
  | reportedMissing hkind =>
    refine ⟨fun h => (nomatch h), ?_⟩
    rintro ⟨call, hcall, -, hreports⟩
    obtain rfl := List.mem_singleton.mp hcall
    exact absurd ⟨_, _, _, rfl, hkind⟩ hreports
  | missing | others =>
    refine ⟨fun h => (nomatch h), ?_⟩
    rintro ⟨call, hcall, hfailed, -⟩
    obtain rfl := List.mem_singleton.mp hcall
    cases hfailed
  | kept =>
    refine ⟨fun _ => ⟨_, List.mem_cons_self, rfl, ?_⟩, fun _ => rfl⟩
    rintro ⟨asked, f, name, hcall, -⟩
    cases hcall
  | cleared =>
    refine ⟨fun h => (nomatch h), ?_⟩
    rintro ⟨call, hcall, hfailed, -⟩
    rcases List.mem_pair.mp hcall with rfl | rfl <;> cases hfailed

theorem freed_of_reportsMissing (h : Released r holder s freed calls s')
    (hmissing : ∃ call ∈ calls, call.ReportsMissing) : freed = true := by
  obtain ⟨call, hcall, asked, f, name, rfl, hkind⟩ := hmissing
  cases h with
  | unread hother =>
    cases List.mem_singleton.mp hcall
    exact absurd hkind (hother name)
  | reportedMissing | missing | others | cleared => rfl
  | kept => rcases List.mem_pair.mp hcall with h | h <;> cases h

theorem unchanged (h : Released r holder s freed calls s')
    (hfailed : ∃ call ∈ calls, call.failed = true) : s' = s := by
  cases h with
  | unread | reportedMissing | missing | others | kept => rfl
  | cleared =>
    obtain ⟨call, hcall, hfailed⟩ := hfailed
    rcases List.mem_pair.mp hcall with rfl | rfl <;> cases hfailed

end Released

theorem HeldBy.get_ok {s : Store} (h : HeldBy r holder s) :
    ∃ c, s.get r.name = .ok c ∧ c.lockedBy = holder := by
  obtain ⟨c, version, hstored, hname, hlock⟩ := h
  exact ⟨_, Store.get_stored hstored hname, hlock⟩

theorem HeldBy.unique {other : String} {s : Store} (h : HeldBy r holder s)
    (h' : HeldBy r other s) : holder = other := by
  obtain ⟨c, hget, rfl⟩ := h.get_ok
  obtain ⟨c', hget', rfl⟩ := h'.get_ok
  rw [hget] at hget'
  cases hget'
  rfl

theorem heldBy_of_get {s : Store} {c d : ConfigMap} {version : Nat} (hget : s.get r.name = .ok c)
    (hname : d.metadata.name = c.metadata.name) (hlock : d.lockedBy = holder) :
    HeldBy r holder ⟨some (d, version)⟩ := by
  obtain ⟨e, n, -, rfl, hstored⟩ := Store.get_ok hget
  exact ⟨d, version, rfl, hname.trans hstored, hlock⟩

namespace Released

variable {s s' : Store} {freed : Bool} {calls : List StoreCall}

/-- Without a failure the holder is without the lock. -/
theorem not_heldBy (h : Released r holder s freed calls s') (hholder : holder ≠ "")
    (hnone : ∀ call ∈ calls, call.failed = false) : ¬ HeldBy r holder s' := by
  intro hheld
  obtain ⟨c', hget', hlock'⟩ := hheld.get_ok
  cases h with
  | unread | reportedMissing | kept => exact nomatch hnone _ List.mem_cons_self
  | missing hget =>
    rw [hget] at hget'
    cases hget'
  | others hget hlock =>
    rw [hget] at hget'
    cases hget'
    exact hlock hlock'
  | cleared hget hlock =>
    exact hholder (hheld.unique (heldBy_of_get hget rfl (ConfigMap.lockedBy_lockFor _ _)))

/-- A holder of the lock keeps it, or has cleared it. -/
theorem of_heldBy (h : Released r holder s freed calls s') (hheld : HeldBy r holder s) :
    (s' = s ∧ (¬ ∃ call ∈ calls, call.Clears) ∧ ∃ call ∈ calls, call.failed = true) ∨
      HeldBy r "" s' ∧ ∃ call ∈ calls, call.Clears := by
  obtain ⟨c', hget', hlock'⟩ := hheld.get_ok
  cases h with
  | unread | reportedMissing =>
    refine Or.inl ⟨rfl, ?_, _, List.mem_cons_self, rfl⟩
    rintro ⟨call, hcall, c, left, hclears⟩
    obtain rfl := List.mem_singleton.mp hcall
    cases hclears
  | missing hget =>
    rw [hget] at hget'
    cases hget'
  | others hget hlock =>
    rw [hget] at hget'
    cases hget'
    exact absurd hlock' hlock
  | kept =>
    refine Or.inl ⟨rfl, ?_, _, List.mem_cons_self, rfl⟩
    rintro ⟨call, hcall, c, left, hclears⟩
    rcases List.mem_pair.mp hcall with rfl | rfl
    · cases congrArg StoreCall.failed hclears
    · cases congrArg StoreCall.question hclears
  | cleared hget =>
    exact Or.inr ⟨heldBy_of_get hget rfl (ConfigMap.lockedBy_lockFor _ _), _, List.mem_cons_self,
      _, _, rfl⟩

end Released

/-! ## A commit -/

/-- The parts of a commit: whether it took the lock, and the calls it then made to free the lock. -/
inductive Parts (r : Registry) (pod address : String) (j : Journal) :
    Bool → List StoreCall → Attempt Unit → Journal → Prop where
  | refused {f : Fault} {j' : Journal}
    (hacquire : Runs Journal.Reacts (r.acquire pod) j (.error f) j') :
    Parts r pod address j false [] (.error f) j'
  | released {guard : Guard} {written : Attempt Unit} {freed : Bool} {calls : List StoreCall}
    {j₁ j₂ j' : Journal} (hacquire : Runs Journal.Reacts (r.acquire pod) j (.ok guard) j₁)
    (hwrite : Runs Journal.Reacts (r.putAddress pod address) j₁ written j₂)
    (hrelease : Runs Journal.Reacts guard.release j₂ freed j')
    (hcalls : j'.calls = calls ++ j₂.calls) : Parts r pod address j true calls written j'

theorem runs_commit {x : Attempt Unit} :
    Runs Journal.Reacts (r.commit pod address) j x j' ↔
      ∃ acquired calls, Parts r pod address j acquired calls x j' := by
  unfold commit
  rw [runs_bind]
  constructor
  · rintro ⟨y, j₁, hacquire, h⟩
    cases y with
    | error f =>
      obtain ⟨rfl, rfl⟩ := runs_done.mp h
      exact ⟨_, _, .refused hacquire⟩
    | ok guard =>
      obtain ⟨written, j₂, hwrite, h⟩ := runs_bind.mp h
      obtain ⟨freed, j₃, hrelease, h⟩ := runs_bind.mp h
      obtain ⟨rfl, rfl⟩ := runs_done.mp h
      obtain ⟨calls, -, hcalls⟩ := runs_release hrelease
      exact ⟨_, _, .released hacquire hwrite hrelease hcalls⟩
  · rintro ⟨acquired, calls, h⟩
    cases h with
    | refused hacquire => exact ⟨_, _, hacquire, .done _ _⟩
    | released hacquire hwrite hrelease hcalls =>
      exact ⟨_, _, hacquire, runs_bind.mpr ⟨_, _, hwrite, runs_bind.mpr ⟨_, _, hrelease,
        .done _ _⟩⟩⟩

/-- The lock is left to the pod if it was the pod's and could not be taken again, or if it was taken
and then not cleared. -/
theorem Parts.heldBy {acquired : Bool} {calls : List StoreCall} {x : Attempt Unit}
    (h : Parts r pod address j acquired calls x j') (hpod : pod ≠ "") :
    (HeldBy r pod j'.store ↔
      acquired = false ∧ HeldBy r pod j.store ∨
        acquired = true ∧ ¬ ∃ call ∈ calls, call.Clears) ∧
    (acquired = true → (∀ call ∈ calls, call.failed = false) → HeldBy r "" j'.store) := by
  cases h with
  | refused hacquire =>
    rcases acquire_exit hacquire with ⟨-, hstore⟩ | ⟨hok, -⟩
    · rw [hstore]
      simp
    · cases hok
  | released hacquire hwrite hrelease hcalls =>
    have hview : ∀ q j x j', Journal.Reacts q j x j' → Reacts q j.ledger x j'.ledger :=
      fun q j x j' hreact => hreact.ledger
    obtain ⟨rfl, hheld⟩ := acquire_ok (hacquire.map hview)
    have hheld := putAddress_keeps hheld (hwrite.map hview)
    obtain ⟨calls', hreleased, hcalls'⟩ := runs_release hrelease
    obtain rfl := List.append_cancel_right (hcalls.symm.trans hcalls')
    rcases hreleased.of_heldBy hheld with ⟨hstore, hkept, call, hcall, hfailed⟩ | ⟨hfree, hcleared⟩
    · rw [hstore]
      refine ⟨⟨fun _ => Or.inr ⟨rfl, hkept⟩, fun _ => hheld⟩, fun _ hnone => ?_⟩
      rw [hnone call hcall] at hfailed
      cases hfailed
    · refine ⟨⟨fun hpodHeld => absurd (hpodHeld.unique hfree) hpod, ?_⟩, fun _ _ => hfree⟩
      rintro (⟨hfalse, -⟩ | ⟨-, hkept⟩)
      · cases hfalse
      · exact absurd hcleared hkept

/-! ## Exit states -/

/--
**What the lock operations leave behind.** Whatever calls fail, and with whatever faults, while
nobody else writes: taking the lock sets it and changes nothing else but the version, or ends with a
fault and changes nothing. Freeing it only fails if one of its own calls did, other than a read that
reports that there is no configmap, and then nothing is changed; if none of its calls failed, the
holder is without the lock. And a commit leaves the lock to the pod exactly if the pod had it
already and could not take it again, or took it and then did not get to clear it; once the lock is
taken and the calls that free it do not fail, it is free, whatever became of the write.
-/
theorem exit_states (r : Registry) (holder address : String) (hholder : holder ≠ "") :
    (∀ j x j', Runs Journal.Reacts (r.acquire holder) j x j' →
      ((∃ f, x = .error f) ∧ j'.store = j.store) ∨
        x = .ok ⟨r, holder⟩ ∧ ∃ c c', j.store.configMap? = some c ∧
          c.metadata.name = some r.name ∧ j'.store.configMap? = some c' ∧ LockSet c c' holder) ∧
    (∀ j freed j', Runs Journal.Reacts (r.release holder) j freed j' →
      ∃ calls, j'.calls = calls ++ j.calls ∧
        (freed = false ↔ ∃ call ∈ calls, call.failed = true ∧ ¬ call.ReportsMissing) ∧
        ((∃ call ∈ calls, call.ReportsMissing) → freed = true) ∧
        ((∃ call ∈ calls, call.failed = true) → j'.store = j.store) ∧
        ((∀ call ∈ calls, call.failed = false) → ¬ HeldBy r holder j'.store)) ∧
    ∀ j x j', Runs Journal.Reacts (r.commit holder address) j x j' →
      (∃ acquired calls, Parts r holder address j acquired calls x j') ∧
      ∀ acquired calls, Parts r holder address j acquired calls x j' →
        (HeldBy r holder j'.store ↔
          acquired = false ∧ HeldBy r holder j.store ∨
            acquired = true ∧ ¬ ∃ call ∈ calls, call.Clears) ∧
        (acquired = true → (∀ call ∈ calls, call.failed = false) → HeldBy r "" j'.store) := by
  refine ⟨fun j x j' h => acquire_exit h, fun j freed j' h => ?_, fun j x j' h =>
    ⟨runs_commit.mp h, fun acquired calls hparts => hparts.heldBy hholder⟩⟩
  obtain ⟨calls, hreleased, hcalls⟩ := runs_release h
  exact ⟨calls, hcalls, hreleased.freed_iff, hreleased.freed_of_reportsMissing,
    hreleased.unchanged, hreleased.not_heldBy hholder⟩

def openRegistry : Journal := ⟨⟨some ({ metadata := { name := some "registry" } }, 1)⟩, []⟩

theorem exit_states_refusedWrite :
    "node-0" ≠ "" ∧ ∃ j',
      Runs Journal.Reacts (Registry.commit ⟨"registry"⟩ "node-0" "10.0.0.9") openRegistry
        (.error (.message "timed out")) j' ∧
      HeldBy ⟨"registry"⟩ "" j'.store := by
  have hholder : "node-0" ≠ "" := by decide
  have hacquire : Runs Journal.Reacts (Registry.acquire ⟨"registry"⟩ "node-0") openRegistry
      (.ok ⟨⟨"registry"⟩, "node-0"⟩) _ :=
    .ask (Or.inl ⟨rfl, rfl⟩) (.ask (Or.inl ⟨rfl, rfl⟩) (.done _ _))
  have hparts : Parts ⟨"registry"⟩ "node-0" "10.0.0.9" openRegistry true [_, _]
      (.error (.message "timed out")) _ :=
    .released hacquire (.ask (Or.inl ⟨rfl, rfl⟩) (.ask (Or.inr ⟨_, rfl, rfl⟩) (.done _ _)))
      (.ask (Or.inl ⟨rfl, rfl⟩) (.ask (Or.inl ⟨rfl, rfl⟩) (.done true _))) rfl
  refine ⟨hholder, _, runs_commit.mpr ⟨_, _, hparts⟩, ?_⟩
  obtain ⟨-, -, hcommit⟩ := exit_states ⟨"registry"⟩ "node-0" "10.0.0.9" hholder
  refine ((hcommit _ _ _ (runs_commit.mpr ⟨_, _, hparts⟩)).2 _ _ hparts).2 rfl fun call hcall => ?_
  rcases List.mem_pair.mp hcall with rfl | rfl <;> rfl

end RingKeeper.Registry
