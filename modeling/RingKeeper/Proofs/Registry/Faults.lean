import RingKeeper.Proofs.Plan
import RingKeeper.Proofs.Registry.Store

/-!
# One client whose calls may fail

Nobody else writes the registry here, but any call to the store may fail with any fault, and is not
applied then.

1. `Reacts` is how the store may react to a call. A `Ledger` remembers the calls.
2. `acquire_ok`, `putAddress_keeps` and `release_frees` say what becomes of the lock in the three
   parts of a commit.
3. `commit_ok` puts them together: a commit without a fault has freed the lock, unless its very last
   call to the store failed.
-/

namespace RingKeeper.Registry

/-- A store, and the calls that were made to it. -/
structure Ledger where
  store : Store
  /-- Latest first, with whether the call failed. -/
  calls : List (Question × Bool)

def Ledger.lastFailed (l : Ledger) : Bool := (l.calls.head?.map (·.2)).getD false

/-- The store answers the call; or the call fails without effect. -/
def Reacts (q : Question) (l : Ledger) (x : Answer q) (l' : Ledger) : Prop :=
  (x = (l.store.answer q).1 ∧ l' = ⟨(l.store.answer q).2, (q, false) :: l.calls⟩) ∨
    ∃ f, x = .error f ∧ l' = ⟨l.store, (q, true) :: l.calls⟩

/-- Runs a procedure while its calls fail as scheduled. The calls after these do not fail. -/
def Ledger.run {α : Type} : List (Option Fault) → Procedure α → Ledger → α × Ledger
  | _, .done a, l => (a, l)
  | some f :: schedule, .ask q next, l =>
    Ledger.run schedule (next (.error f)) ⟨l.store, (q, true) :: l.calls⟩
  | schedule, .ask q next, l =>
    Ledger.run schedule.tail (next (l.store.answer q).1)
      ⟨(l.store.answer q).2, (q, false) :: l.calls⟩

theorem runs_run {α : Type} (schedule : List (Option Fault)) (p : Procedure α) (l : Ledger) :
    Plan.Runs Reacts p l (Ledger.run schedule p l).1 (Ledger.run schedule p l).2 := by
  induction p generalizing schedule l with
  | done a => cases schedule <;> exact .done a l
  | ask q next ih =>
    rcases schedule with _ | ⟨_ | f, schedule⟩
    · exact .ask (Or.inl ⟨rfl, rfl⟩) (ih _ [] _)
    · exact .ask (Or.inl ⟨rfl, rfl⟩) (ih _ schedule _)
    · exact .ask (Or.inr ⟨f, rfl, rfl⟩) (ih _ schedule _)

/-- The registry is stored, and its lock names this holder. -/
def HeldBy (r : Registry) (holder : String) (s : Store) : Prop :=
  ∃ c version, s.stored = some (c, version) ∧ c.metadata.name = some r.name ∧
    c.lockedBy = holder

variable {r : Registry} {l l' : Ledger} {c left : ConfigMap} {f : Fault} {version : Nat}
  {holder : String}

/-! ## Single calls -/

theorem reacts_get_ok {name : String} (h : Reacts (.get name) l (.ok c) l') :
    l.store.get name = .ok c ∧ l'.store = l.store := by
  rcases h with ⟨hx, rfl⟩ | ⟨f, hx, -⟩
  · exact ⟨hx.symm, rfl⟩
  · cases hx

theorem reacts_get_store {name : String} {x : Attempt ConfigMap}
    (h : Reacts (.get name) l x l') : l'.store = l.store := by
  rcases h with ⟨-, rfl⟩ | ⟨f, -, rfl⟩ <;> rfl

/-- A lookup of what is stored only goes wrong if the call fails. -/
theorem reacts_get_error (hstored : l.store.stored = some (c, version))
    (hname : c.metadata.name = some r.name) (h : Reacts (.get r.name) l (.error f) l') :
    l'.lastFailed = true := by
  rcases h with ⟨hx, -⟩ | ⟨f', -, rfl⟩
  · have hget : l.store.get r.name = .error f := hx.symm
    rw [Store.get_stored hstored hname] at hget
    cases hget
  · rfl

theorem reacts_replace_ok (h : Reacts (.replace c) l (.ok left) l') :
    l.store.replace c = (.ok left, l'.store) ∧ l'.lastFailed = false := by
  rcases h with ⟨hx, rfl⟩ | ⟨f, hx, -⟩
  · exact ⟨Prod.ext hx.symm rfl, rfl⟩
  · cases hx

theorem reacts_replace_error (h : Reacts (.replace c) l (.error f) l') : l'.store = l.store := by
  rcases h with ⟨hx, rfl⟩ | ⟨f', -, rfl⟩
  · exact Store.replace_error (Prod.ext hx.symm rfl)
  · rfl

/-- A replacement of the stored version only goes wrong if the call fails. -/
theorem reacts_replace_error_of_stored {d : ConfigMap}
    (hstored : l.store.stored = some (d, version)) (hname : d.metadata.name = some c.name)
    (hversion : c.metadata.resourceVersion = some (toString version))
    (h : Reacts (.replace c) l (.error f) l') : l'.lastFailed = true := by
  rcases h with ⟨hx, -⟩ | ⟨f', -, rfl⟩
  · have hreplace : (l.store.replace c).1 = .error f := hx.symm
    rw [Store.replace_stored hstored hname hversion] at hreplace
    cases hreplace
  · rfl

/-! ## The parts of a commit -/

/-- Whoever takes the lock has it. -/
theorem acquire_ok {guard : Guard} (h : Plan.Runs Reacts (r.acquire holder) l (.ok guard) l') :
    guard = ⟨r, holder⟩ ∧ HeldBy r holder l'.store := by
  unfold acquire at h
  obtain ⟨x, l₁, hget, h⟩ := Plan.runs_bind.mp h
  cases x with
  | error f => cases (Plan.runs_done.mp h).1
  | ok c =>
    obtain ⟨hc, hstore⟩ := reacts_get_ok (Plan.runs_request.mp hget)
    obtain ⟨d, version, hstored, rfl, hname⟩ := Store.get_ok hc
    dsimp only at h
    split at h
    · cases (Plan.runs_done.mp h).1
    obtain ⟨x, l₂, hreplace, h⟩ := Plan.runs_bind.mp h
    cases x with
    | ok left =>
      obtain ⟨hguard, rfl⟩ := Plan.runs_done.mp h
      obtain ⟨hr, -⟩ := reacts_replace_ok (Plan.runs_request.mp hreplace)
      obtain ⟨e, n, -, -, -, hl⟩ := Store.replace_ok hr
      refine ⟨Except.ok.inj hguard, _, _, congrArg Store.stored hl, hname, ?_⟩
      exact ConfigMap.lockedBy_lockFor _ _
    | error f =>
      -- whatever is read after a refusal, the result is a fault
      dsimp only at h
      split at h
      · obtain ⟨x, l₃, -, h⟩ := Plan.runs_bind.mp h
        cases x with
        | error f => cases (Plan.runs_done.mp h).1
        | ok c =>
          dsimp only at h
          split at h <;> cases (Plan.runs_done.mp h).1
      · cases (Plan.runs_done.mp h).1

/-- Recording an address leaves the lock alone. -/
theorem putAddress_keeps {pod address : String} {written : Attempt Unit}
    (hheld : HeldBy r holder l.store)
    (h : Plan.Runs Reacts (r.putAddress pod address) l written l') :
    HeldBy r holder l'.store := by
  unfold putAddress at h
  obtain ⟨x, l₁, hget, h⟩ := Plan.runs_bind.mp h
  have hstore := reacts_get_store (Plan.runs_request.mp hget)
  cases x with
  | error f =>
    obtain ⟨-, rfl⟩ := Plan.runs_done.mp h
    rwa [hstore]
  | ok c =>
    obtain ⟨hc, -⟩ := reacts_get_ok (Plan.runs_request.mp hget)
    obtain ⟨d, version, hstored, rfl, hname⟩ := Store.get_ok hc
    obtain ⟨x, l₂, hreplace, h⟩ := Plan.runs_bind.mp h
    cases x with
    | error f =>
      obtain ⟨-, rfl⟩ := Plan.runs_done.mp h
      rwa [reacts_replace_error (Plan.runs_request.mp hreplace), hstore]
    | ok left =>
      obtain ⟨-, rfl⟩ := Plan.runs_done.mp h
      obtain ⟨hr, -⟩ := reacts_replace_ok (Plan.runs_request.mp hreplace)
      obtain ⟨e, n, -, -, -, hl⟩ := Store.replace_ok hr
      obtain ⟨d', version', hstored', -, hlock⟩ := hheld
      rw [hstored] at hstored'
      cases hstored'
      refine ⟨_, _, congrArg Store.stored hl, hname, ?_⟩
      rw [ConfigMap.lockedBy_recordAddress, ConfigMap.lockedBy_atVersion, hlock]

/-- The holder frees the lock, unless the last call fails. -/
theorem release_frees {freed : Bool} (hheld : HeldBy r holder l.store)
    (h : Plan.Runs Reacts (r.release holder) l freed l') :
    (l'.lastFailed = true ∧ HeldBy r holder l'.store) ∨
      (l'.lastFailed = false ∧ HeldBy r "" l'.store) := by
  obtain ⟨d, version, hstored, hname, hlock⟩ := hheld
  unfold release at h
  obtain ⟨x, l₁, hget, h⟩ := Plan.runs_bind.mp h
  have hstore := reacts_get_store (Plan.runs_request.mp hget)
  cases x with
  | error f =>
    have hfailed := reacts_get_error hstored hname (Plan.runs_request.mp hget)
    refine Or.inl ?_
    dsimp only at h
    split at h <;>
    · obtain ⟨-, rfl⟩ := Plan.runs_done.mp h
      exact ⟨hfailed, d, version, by rw [hstore, hstored], hname, hlock⟩
  | ok c =>
    obtain ⟨hc, -⟩ := reacts_get_ok (Plan.runs_request.mp hget)
    rw [Store.get_stored hstored hname] at hc
    cases hc
    dsimp only at h
    rw [if_pos (show (d.atVersion version).lockedBy = holder from hlock)] at h
    obtain ⟨x, l₂, hreplace, h⟩ := Plan.runs_bind.mp h
    have hreacts := Plan.runs_request.mp hreplace
    cases x with
    | error f =>
      obtain ⟨-, rfl⟩ := Plan.runs_done.mp h
      refine Or.inl ⟨?_, d, version, ?_, hname, hlock⟩
      · refine reacts_replace_error_of_stored (hstore ▸ hstored) ?_ rfl hreacts
        show d.metadata.name = some (d.metadata.name.getD "")
        rw [hname]
        rfl
      · rw [reacts_replace_error hreacts, hstore, hstored]
    | ok left =>
      obtain ⟨-, rfl⟩ := Plan.runs_done.mp h
      obtain ⟨hr, hanswered⟩ := reacts_replace_ok hreacts
      obtain ⟨e, n, -, -, -, hl⟩ := Store.replace_ok hr
      refine Or.inr ⟨hanswered, _, _, congrArg Store.stored hl, hname, ?_⟩
      exact ConfigMap.lockedBy_lockFor _ _

/-- A commit without a fault has freed the lock, unless its last call failed. -/
theorem commit_ok {pod address : String}
    (h : Plan.Runs Reacts (r.commit pod address) l (.ok ()) l') :
    (l'.lastFailed = true ∧ HeldBy r pod l'.store) ∨
      (l'.lastFailed = false ∧ HeldBy r "" l'.store) := by
  unfold commit at h
  obtain ⟨x, l₁, hacquire, h⟩ := Plan.runs_bind.mp h
  cases x with
  | error f => cases (Plan.runs_done.mp h).1
  | ok guard =>
    obtain ⟨rfl, hheld⟩ := acquire_ok hacquire
    obtain ⟨written, l₂, hput, h⟩ := Plan.runs_bind.mp h
    obtain ⟨freed, l₃, hrelease, h⟩ := Plan.runs_bind.mp h
    obtain ⟨-, rfl⟩ := Plan.runs_done.mp h
    exact release_frees (putAddress_keeps hheld hput) hrelease

end RingKeeper.Registry
