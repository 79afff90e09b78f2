import RingKeeper.Proofs.Bootstrap.Stages
import RingKeeper.Proofs.Registry.Faults

/-!
# The lock after a bootstrap

A commit frees the lock at its end, and does not report it when that fails. So a bootstrap may end
without a fault and leave the lock behind. `rejoin_leaves_lock_iff` says exactly when: if its last
call to the store failed. `rejoin_leaves_lock` is such a bootstrap.
-/

namespace RingKeeper

namespace Bootstrap

open Registry (Ledger HeldBy)

/-- The surroundings of a bootstrap: calls to the store may fail, and everything else may be
answered in any way. -/
def Reacts : (q : Question) → Ledger → Answer q → Ledger → Prop
  | .store call, l, x, l' => Registry.Reacts call l x l'
  | _, l, _, l' => l' = l

variable {b : Bootstrap} {l l' : Ledger}

/-- Writing the marker does not touch the registry. -/
theorem writeMarker_keeps {text : String} {a : Attempt Unit}
    (h : Plan.Runs Reacts (b.writeMarker text) l a l') : l' = l := by
  unfold writeMarker at h
  obtain ⟨x, l₁, hask, hrest⟩ := Plan.runs_bind.mp h
  obtain rfl : l₁ = l := Plan.runs_request.mp hask
  split at hrest <;> exact (Plan.runs_done.mp hrest).2

/-- A bootstrap that ends without a fault has committed its address. -/
theorem rejoinWithin_ok {timeout : Span}
    (h : Plan.Runs Reacts (b.rejoinWithin timeout) l (.ok ()) l') :
    ∃ l₁, Plan.Runs Registry.Reacts (b.registry.commit b.settings.podName b.settings.podIp) l₁
      (.ok ()) l' := by
  cases runs_rejoinWithin h with
  | committed hup hcommit hwrite =>
    obtain rfl := writeMarker_keeps hwrite
    obtain ⟨l₁, htry⟩ := RetryPolicy.runs_tryAgain_ok hcommit
    exact ⟨l₁, runs_inStore.mp htry⟩

/-! ## A bootstrap whose last call fails -/

def joining : Bootstrap where
  settings :=
    { podNamespace := "ring", podName := "node-0", podIp := "10.0.0.9", registryName := "registry"
      timeout := .zero, jmxPort := 7199, useSsl := false, shutdownOldNode := false
      replaceIpFile := "replace.ip", systemDataDir := "data", usernameFile := "user"
      passwordFile := "password", toolPath := "tool" }
  policy := ⟨1, .zero⟩

def beforeJoining : Ledger := ⟨⟨some ({ metadata := { name := some "registry" } }, 1)⟩, []⟩

/-- The commit of a node whose last call, the replacement that would free the lock, fails. -/
def lateRefusal : Attempt Unit × Ledger :=
  Ledger.run [none, none, none, none, none, some (.message "timed out")]
    (joining.registry.commit "node-0" "10.0.0.9") beforeJoining

def afterJoining : Ledger := lateRefusal.2

def upReport : String := "Datacenter: dc1\nUN  10.0.0.9  1 KiB  1  1%  a  r"

theorem isUpBy_upReport : joining.isUpBy (.ok upReport) = true := by decide +kernel

theorem runs_joining :
    Plan.Runs Reacts (joining.rejoinWithin .zero) beforeJoining (.ok ()) afterJoining := by
  have hpolled : Reacts (.ownStatus .zero) beforeJoining (.finished .zero (.ok upReport))
      beforeJoining := rfl
  have hup : Plan.Runs Reacts (joining.comesUp .zero) beforeJoining true beforeJoining :=
    runs_comesUp isUpBy_upReport (by decide) hpolled
  have hcommit : Plan.Runs Reacts joining.commit beforeJoining lateRefusal.1 afterJoining :=
    runs_inStore.mpr (Registry.runs_run _ _ beforeJoining)
  rw [show lateRefusal.1 = .ok () from rfl] at hcommit
  have hmarker : Plan.Runs Reacts (joining.writeMarker "") afterJoining (.ok ()) afterJoining :=
    Plan.runs_bind.mpr ⟨.ok (), afterJoining, Plan.runs_request.mpr rfl, .done _ _⟩
  unfold rejoinWithin
  refine Plan.runs_bind.mpr ⟨true, beforeJoining, hup, ?_⟩
  exact Plan.runs_bind.mpr ⟨.ok (), afterJoining, hcommit, hmarker⟩

/-! ## Locks that are left -/

/--
**A bootstrap may leave its lock behind.** A bootstrap that ends without a fault has left the lock
to its pod exactly if its last call to the store failed, the one that was to free the lock.
-/
theorem rejoin_leaves_lock_iff (b : Bootstrap) (hpod : b.settings.podName ≠ "") (timeout : Span)
    (store : Registry.Store)
    (h : Plan.Runs Reacts (b.rejoinWithin timeout) ⟨store, []⟩ (.ok ()) l') :
    (∃ c, l'.store.configMap? = some c ∧ c.lockedBy = b.settings.podName) ↔
      l'.lastFailed = true := by
  obtain ⟨l₁, hcommit⟩ := rejoinWithin_ok h
  rcases Registry.commit_ok hcommit with ⟨hfailed, c, version, hc, -, hlock⟩ |
    ⟨hanswered, c, version, hc, -, hlock⟩
  · exact ⟨fun _ => hfailed, fun _ => ⟨_, Registry.Store.configMap?_eq hc, hlock⟩⟩
  · refine ⟨fun ⟨d, hd, hheld⟩ => ?_, fun hfailed => ?_⟩
    · rw [Registry.Store.configMap?_eq hc] at hd
      cases hd
      exact absurd (hheld.symm.trans hlock) hpod
    · rw [hanswered] at hfailed
      cases hfailed

theorem rejoin_leaves_lock_iff_joining :
    joining.settings.podName ≠ "" ∧ afterJoining.lastFailed = true ∧
      ∃ c, afterJoining.store.configMap? = some c ∧ c.lockedBy = joining.settings.podName := by
  have hpod : joining.settings.podName ≠ "" := by decide
  have hfailed : afterJoining.lastFailed = true := rfl
  exact ⟨hpod, hfailed, (rejoin_leaves_lock_iff joining hpod .zero _ runs_joining).mpr hfailed⟩

/-- This bootstrap ends without a fault, and the registry stays locked. -/
theorem rejoin_leaves_lock :
    Plan.Runs Reacts (joining.rejoinWithin .zero) beforeJoining (.ok ()) afterJoining ∧
      joining.settings.podName ≠ "" ∧
      ∃ c, afterJoining.store.configMap? = some c ∧ c.lockedBy = joining.settings.podName :=
  ⟨runs_joining, by decide, _, rfl, by decide⟩

end Bootstrap

end RingKeeper
