import Mathlib.Data.Set.Insert
import Mathlib.Logic.Function.Basic
import RingKeeper.Proofs.Kube.ConfigMap
import RingKeeper.Proofs.Registry.Store

/-!
# A store that keeps configmaps under their names

1. `Shelf.Serves` says how the two calls to the store are meant, and `Shelf.Answers` that a call may
   also fail.
2. `Shelf.serves_answer`: the store that counts the versions of one configmap is such a store.
-/

namespace RingKeeper

/-- The configmap in another version. -/
def ConfigMap.withVersion (c : ConfigMap) (version : String) : ConfigMap :=
  { c with metadata := { c.metadata with resourceVersion := some version } }

/-- What a client gets to see of a configmap that is kept under this name. -/
structure ConfigMap.IsEntry (name : String) (c : ConfigMap) : Prop where
  regular : c.IsRegular
  name : c.metadata.name = some name

theorem ConfigMap.IsRegular.withVersion {c : ConfigMap} (hc : c.IsRegular) (version : String) :
    (c.withVersion version).IsRegular :=
  ⟨⟨hc.metadata.labels, hc.metadata.annotations, hc.metadata.rest⟩, hc.data, hc.rest⟩

theorem ConfigMap.IsEntry.withVersion {c : ConfigMap} {name : String} (hc : c.IsEntry name)
    (version : String) : (c.withVersion version).IsEntry name :=
  ⟨hc.regular.withVersion version, hc.name⟩

namespace Registry

/-- Configmaps under their names, and all versions that were ever given to one. -/
structure Shelf where
  kept : String → Option ConfigMap
  versions : Set String

namespace Shelf

/-- Keeps the configmap in a new version. -/
def keep (t : Shelf) (name : String) (c : ConfigMap) (version : String) : Shelf where
  kept := Function.update t.kept name (some (c.withVersion version))
  versions := insert version t.versions

/-- The calls to the store as they are meant. -/
inductive Serves : (q : Question) → Shelf → Answer q → Shelf → Prop where
  | found {t : Shelf} {name : String} {c : ConfigMap} (h : t.kept name = some c) :
    Serves (.get name) t (.ok c) t
  | missing {t : Shelf} {name : String} (h : t.kept name = none) :
    Serves (.get name) t (.error (.ofKind (.registryNotFound name))) t
  | replaced {t : Shelf} {c d : ConfigMap} {version : String} (h : t.kept c.name = some d)
    (hversion : c.metadata.resourceVersion = d.metadata.resourceVersion)
    (hnew : version ∉ t.versions) :
    Serves (.replace c) t (.ok (c.withVersion version)) (t.keep c.name c version)
  | stale {t : Shelf} {c d : ConfigMap} (h : t.kept c.name = some d)
    (hversion : c.metadata.resourceVersion ≠ d.metadata.resourceVersion) :
    Serves (.replace c) t (.error (.ofKind (.conflict c.name))) t
  | gone {t : Shelf} {c : ConfigMap} (h : t.kept c.name = none) :
    Serves (.replace c) t (.error (.ofKind (.registryNotFound c.name))) t

/-- The store that counts its versions, as a shelf with one place. -/
def ofStore (s : Store) : Shelf where
  kept name := s.configMap?.filter fun c => decide (c.metadata.name = some name)
  versions := { version | ∃ c last n, s.stored = some (c, last) ∧ n ≤ last ∧ version = toString n }

/-- The call is served, or a fault of the cluster leaves it open whether it was. -/
def Answers (q : Question) (t : Shelf) (x : Answer q) (t' : Shelf) : Prop :=
  Serves q t x t' ∨
    (∃ text, x = .error (.ofKind (.cluster text))) ∧ (t' = t ∨ ∃ y, Serves q t y t')

theorem kept_ofStore {s : Store} {c : ConfigMap} {version : Nat} (h : s.stored = some (c, version))
    (name : String) : (ofStore s).kept name =
      if c.metadata.name = some name then some (c.withVersion (toString version)) else none := by
  show s.configMap?.filter _ = _
  rw [Store.configMap?_eq h, Option.filter_some]
  simp only [decide_eq_true_eq]
  rfl

theorem versions_ofStore {s : Store} {c : ConfigMap} {last : Nat} (h : s.stored = some (c, last))
    (n : Nat) : toString n ∈ (ofStore s).versions ↔ n ≤ last := by
  constructor
  · rintro ⟨d, last', m, hstored, hm, heq⟩
    rw [h] at hstored
    cases hstored
    obtain rfl := toString_injective heq
    exact hm
  · exact fun hn => ⟨c, last, n, h, hn, rfl⟩

/-- A store whose configmap is replaced has moved up by one version. -/
theorem ofStore_replaced {s : Store} {c d : ConfigMap} {version : Nat}
    (h : s.stored = some (d, version)) (hname : d.metadata.name = some c.name)
    (hc : c.metadata.name = some c.name) :
    ofStore ⟨some (c, version + 1)⟩ = (ofStore s).keep c.name c (toString (version + 1)) := by
  have hkept : (ofStore ⟨some (c, version + 1)⟩).kept =
      Function.update (ofStore s).kept c.name (some (c.withVersion (toString (version + 1)))) := by
    funext name
    rw [kept_ofStore rfl, hc]
    by_cases heq : name = c.name
    · rw [heq, Function.update_self, if_pos rfl]
    · have hne : ¬ some c.name = some name := fun h => heq (Option.some.inj h).symm
      rw [Function.update_of_ne heq, if_neg hne, kept_ofStore h, hname, if_neg hne]
  have hversions : (ofStore ⟨some (c, version + 1)⟩).versions =
      insert (toString (version + 1)) (ofStore s).versions := by
    ext v
    constructor
    · rintro ⟨c', last, n, hstored, hn, rfl⟩
      cases hstored
      rcases Nat.le_succ_iff.mp hn with hn | rfl
      · exact Or.inr ⟨d, version, n, h, hn, rfl⟩
      · exact Or.inl rfl
    · rintro (rfl | ⟨d', last, n, hstored, hn, rfl⟩)
      · exact ⟨c, version + 1, version + 1, rfl, Nat.le_refl _, rfl⟩
      · rw [h] at hstored
        cases hstored
        exact ⟨c, version + 1, n, rfl, Nat.le_succ_of_le hn, rfl⟩
  unfold keep
  rw [← hkept, ← hversions]

/-- The store that counts its versions serves the calls for configmaps with a name. -/
theorem serves_answer (s : Store) {q : Question}
    (hq : ∀ c, q = .replace c → c.metadata.name = some c.name) :
    Serves q (ofStore s) (s.answer q).1 (ofStore (s.answer q).2) := by
  rcases hstored : s.stored with _ | ⟨d, version⟩
  · have hkept : ∀ name, (ofStore s).kept name = none := by
      intro name
      simp [ofStore, Store.configMap?, hstored]
    cases q with
    | get name =>
      have hget : s.get name = .error (.ofKind (.registryNotFound name)) := by
        simp [Store.get, Store.configMap?, hstored]
      simpa [Store.answer, hget] using Serves.missing (hkept name)
    | replace c =>
      have hreplace : s.replace c = (.error (.ofKind (.registryNotFound c.name)), s) := by
        simp [Store.replace, hstored]
      simpa [Store.answer, hreplace] using Serves.gone (hkept c.name)
  · have hkept := kept_ofStore hstored
    cases q with
    | get name =>
      by_cases hname : d.metadata.name = some name
      · have hfound := (hkept name).trans (if_pos hname)
        simp only [Store.answer, Store.get_stored hstored hname]
        exact .found hfound
      · have hmissing := (hkept name).trans (if_neg hname)
        have hget : s.get name = .error (.ofKind (.registryNotFound name)) := by
          simp [Store.get, Store.configMap?_eq hstored, ConfigMap.atVersion, hname]
        simpa [Store.answer, hget] using Serves.missing hmissing
    | replace c =>
      by_cases hname : d.metadata.name = some c.name
      · have hfound := (hkept c.name).trans (if_pos hname)
        by_cases hversion : c.metadata.resourceVersion = some (toString version)
        · have hnew : toString (version + 1) ∉ (ofStore s).versions := by
            rw [versions_ofStore hstored]
            omega
          simp only [Store.answer, Store.replace_stored hstored hname hversion,
            ofStore_replaced hstored hname (hq c rfl)]
          exact Serves.replaced hfound hversion hnew
        · have hreplace : s.replace c = (.error (.ofKind (.conflict c.name)), s) := by
            unfold Store.replace
            rw [hstored]
            exact (if_neg (not_not_intro hname)).trans (if_pos hversion)
          simpa [Store.answer, hreplace] using Serves.stale hfound hversion
      · have hgone := (hkept c.name).trans (if_neg hname)
        have hreplace : s.replace c = (.error (.ofKind (.registryNotFound c.name)), s) := by
          simp [Store.replace, hstored, hname]
        simpa [Store.answer, hreplace] using Serves.gone hgone

end Shelf

/-! ## Entries -/

namespace Question

/-- The name of the configmap that the call is about. -/
def name : Question → String
  | .get name => name
  | .replace c => c.name

/-- The call looks this name up, or replaces by a configmap of such a kind. -/
def IsFor (name : String) (entry : ConfigMap → Prop) : Question → Prop
  | .get n => n = name
  | .replace c => entry c

variable {q : Question} {name : String}

theorem IsFor.name_eq (hq : q.IsFor name (ConfigMap.IsEntry name)) : q.name = name := by
  cases q with
  | get n => exact hq
  | replace c =>
    show c.metadata.name.getD "" = name
    rw [ConfigMap.IsEntry.name hq]
    rfl

end Question

/-- What is handed out is an entry. -/
theorem Shelf.Answers.isEntry {q : Question} {name : String} {c : ConfigMap} {t t' : Shelf}
    (ht : ∀ n c, t.kept n = some c → c.IsEntry n) (hq : q.IsFor name (ConfigMap.IsEntry name))
    (h : t.Answers q (.ok c) t') : c.IsEntry name := by
  rcases h with h | ⟨⟨text, h⟩, -⟩
  · cases h with
    | found h => exact hq ▸ ht _ _ h
    | @replaced _ c _ version _ _ _ => exact ConfigMap.IsEntry.withVersion (c := c) hq version
  · cases h

end Registry

end RingKeeper
