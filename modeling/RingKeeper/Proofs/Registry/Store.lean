import RingKeeper.Registry.Store

/-!
# What the store answers

A lookup succeeds exactly if the configmap of that name is stored, and hands it out. A replacement
succeeds exactly if it is of that name and carries the stored version; otherwise it changes nothing.
-/

namespace RingKeeper

theorem toString_injective {m n : Nat} (h : toString m = toString n) : m = n := by
  have hdigits : Nat.toDigits 10 m = Nat.toDigits 10 n := by
    rw [← Nat.toList_repr, ← Nat.toList_repr]
    exact congrArg String.toList h
  rw [← Nat.ofDigitChars_ten_toDigits (n := m), hdigits, Nat.ofDigitChars_ten_toDigits]

@[simp] theorem ConfigMap.lockedBy_atVersion (c : ConfigMap) (version : Nat) :
    (c.atVersion version).lockedBy = c.lockedBy := rfl

namespace Registry.Store

variable {s s' : Store} {c d left : ConfigMap} {version : Nat} {name : String}

theorem configMap?_eq (h : s.stored = some (c, version)) :
    s.configMap? = some (c.atVersion version) := by
  unfold configMap?
  rw [h]
  rfl

theorem get_ok (h : s.get name = .ok c) :
    ∃ d version, s.stored = some (d, version) ∧ c = d.atVersion version ∧
      d.metadata.name = some name := by
  unfold get configMap? at h
  cases hs : s.stored with
  | none => rw [hs] at h; cases h
  | some p =>
    rw [hs] at h
    dsimp only [Option.map_some] at h
    split at h
    · rename_i hname
      cases h
      exact ⟨p.1, p.2, rfl, rfl, hname⟩
    · cases h

theorem get_stored (h : s.stored = some (c, version)) (hname : c.metadata.name = some name) :
    s.get name = .ok (c.atVersion version) := by
  unfold get
  rw [configMap?_eq h]
  exact if_pos hname

/-- A replacement that succeeds carried the stored version, and moves it up by one. -/
theorem replace_ok (h : s.replace c = (.ok left, s')) :
    ∃ d version, s.stored = some (d, version) ∧
      c.metadata.resourceVersion = some (toString version) ∧
      left = c.atVersion (version + 1) ∧ s' = ⟨some (c, version + 1)⟩ := by
  unfold replace at h
  split at h
  · cases h
  · rename_i d version hs
    split at h
    · cases h
    · split at h
      · cases h
      · rename_i hversion
        cases h
        exact ⟨d, version, hs, Classical.not_not.mp hversion, rfl, rfl⟩

theorem replace_stored (h : s.stored = some (d, version)) (hname : d.metadata.name = some c.name)
    (hversion : c.metadata.resourceVersion = some (toString version)) :
    s.replace c = (.ok (c.atVersion (version + 1)), ⟨some (c, version + 1)⟩) := by
  unfold replace
  rw [h]
  dsimp only
  rw [if_neg (not_not_intro hname), if_neg (not_not_intro hversion)]

/-- A replacement that fails changes nothing. -/
theorem replace_error {f : Fault} (h : s.replace c = (.error f, s')) : s' = s := by
  unfold replace at h
  split at h
  · cases h; rfl
  · split at h
    · cases h; rfl
    · split at h
      · cases h; rfl
      · cases h

end Registry.Store

end RingKeeper
