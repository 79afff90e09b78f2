import RingKeeper.Table

/-!
# Dropping entries and changing values of a table

`Table.get?_filter_of_none` and `Table.get?_filter_of_some` say what is looked up after some entries
were dropped, and `Table.Within` that nothing else is looked up. `Table.adjust` changes the values of
picked keys and leaves everything else as it is, the order of the entries too. Writing a changed value
of one key is such a change (`Table.insert_eq_adjust`), and where changing a value twice is changing
it once, two such changes are one (`Table.adjust_adjust`).
-/

namespace RingKeeper

namespace Table

variable {κ α : Type} [DecidableEq κ] {change : α → α}

/-- Changes the entries in which the picked keys are looked up. -/
def adjustEntries (change : α → α) : (κ → Bool) → List (κ × α) → List (κ × α)
  | _, [] => []
  | pick, e :: es =>
    (if pick e.1 then (e.1, change e.2) else e) ::
      adjustEntries change (fun key => pick key && decide (key ≠ e.1)) es

/-- The table with the values of the picked keys changed. -/
def adjust (t : Table κ α) (change : α → α) (pick : κ → Bool) : Table κ α :=
  ⟨adjustEntries change pick t.entries⟩

theorem get?_cons (e : κ × α) (es : List (κ × α)) (key : κ) :
    (⟨e :: es⟩ : Table κ α).get? key =
      if e.1 = key then some e.2 else (⟨es⟩ : Table κ α).get? key := by
  unfold get?
  rw [List.find?_cons]
  by_cases h : e.1 = key <;> simp [h]

/-- A table of one entry holds nothing else. -/
theorem eq_of_get?_singleton {k key : κ} {a b : α}
    (h : (⟨[(k, a)]⟩ : Table κ α).get? key = some b) : k = key ∧ a = b := by
  rw [get?_cons] at h
  split at h
  · rename_i hkey
    exact ⟨hkey, Option.some.inj h⟩
  · cases h

theorem mem_of_get? {t : Table κ α} {key : κ} {a : α} (h : t.get? key = some a) :
    (key, a) ∈ t.entries := by
  obtain ⟨e, he, rfl⟩ := Option.map_eq_some_iff.mp h
  have hfound := List.find?_some he
  obtain rfl : e.1 = key := of_decide_eq_true hfound
  exact List.mem_of_find?_eq_some he

theorem get?_of_mem {t : Table κ α} {key : κ} {a : α} (h : t.keys.Nodup)
    (hmem : (key, a) ∈ t.entries) : t.get? key = some a := by
  obtain ⟨es⟩ := t
  induction es with
  | nil => cases hmem
  | cons e es ih =>
    have hnodup : e.1 ∉ es.map (·.1) ∧ (es.map (·.1)).Nodup := List.nodup_cons.mp h
    rw [get?_cons]
    rcases List.mem_cons.mp hmem with rfl | hmem
    · exact if_pos rfl
    · have hne : e.1 ≠ key := fun hkey =>
        hnodup.1 (hkey ▸ List.mem_map_of_mem hmem)
      rw [if_neg hne]
      exact ih hnodup.2 hmem

/-- Writing a key adds no entry but its own. -/
theorem mem_put {key : κ} {a : α} {es : List (κ × α)} {e : κ × α} (h : e ∈ put key a es) :
    e = (key, a) ∨ e ∈ es := by
  induction es with
  | nil => exact Or.inl (List.mem_singleton.mp h)
  | cons e' es ih =>
    rw [put] at h
    split at h
    · rcases List.mem_cons.mp h with h | h
      · exact Or.inl h
      · exact Or.inr (List.mem_cons_of_mem _ h)
    · rcases List.mem_cons.mp h with h | h
      · exact Or.inr (h ▸ List.mem_cons_self)
      · exact (ih h).imp_right (List.mem_cons_of_mem _)

theorem nodup_put {key : κ} {es : List (κ × α)} (h : (es.map (·.1)).Nodup) (a : α) :
    ((put key a es).map (·.1)).Nodup := by
  induction es with
  | nil => simp [put]
  | cons e es ih =>
    rw [List.map_cons, List.nodup_cons] at h
    rw [put]
    split
    · rename_i hkey
      rw [List.map_cons, List.nodup_cons, ← hkey]
      exact h
    · rename_i hkey
      rw [List.map_cons, List.nodup_cons]
      refine ⟨fun hmem => ?_, ih h.2⟩
      obtain ⟨e', he', heq⟩ := List.mem_map.mp hmem
      rcases mem_put he' with rfl | he'
      · exact hkey heq.symm
      · exact h.1 (List.mem_map.mpr ⟨e', he', heq⟩)

/-- Writing keys one after the other keeps each key once. -/
theorem nodup_insert {t : Table κ α} (h : t.keys.Nodup) (key : κ) (a : α) :
    (t.insert key a).keys.Nodup := nodup_put h a

theorem foldl_insert_keeps {es : List (κ × α)} {t : Table κ α} (h : t.keys.Nodup) :
    (es.foldl (fun t e => t.insert e.1 e.2) t).keys.Nodup ∧
      ∀ e ∈ (es.foldl (fun t e => t.insert e.1 e.2) t).entries, e ∈ t.entries ∨ e ∈ es := by
  induction es generalizing t with
  | nil => exact ⟨h, fun e he => Or.inl he⟩
  | cons e' es ih =>
    obtain ⟨hnodup, hmem⟩ := ih (nodup_insert h e'.1 e'.2)
    refine ⟨hnodup, fun e he => ?_⟩
    rcases hmem e he with he | he
    · exact (mem_put he).elim (fun heq => Or.inr (heq ▸ List.mem_cons_self)) Or.inl
    · exact Or.inr (List.mem_cons_of_mem e' he)

theorem nodup_ofList (es : List (κ × α)) : (ofList es).keys.Nodup :=
  (foldl_insert_keeps (t := empty) List.nodup_nil).1

/-- The table holds nothing but what it was made from. -/
theorem mem_ofList {es : List (κ × α)} {e : κ × α} (h : e ∈ (ofList es).entries) : e ∈ es :=
  ((foldl_insert_keeps (t := empty) List.nodup_nil).2 e h).elim nofun id

theorem get?_filter_of_none {t : Table κ α} {key : κ} (keep : κ × α → Bool)
    (h : t.get? key = none) : (⟨t.entries.filter keep⟩ : Table κ α).get? key = none := by
  unfold get? at h ⊢
  rw [Option.map_eq_none_iff, List.find?_eq_none] at h ⊢
  exact fun e he => h e ((List.mem_filter.mp he).1)

theorem get?_filter_of_some {t : Table κ α} {key : κ} {a : α} {keep : κ × α → Bool}
    (h : t.get? key = some a) (hkeep : keep (key, a) = true) :
    (⟨t.entries.filter keep⟩ : Table κ α).get? key = some a := by
  obtain ⟨es⟩ := t
  show (⟨es.filter keep⟩ : Table κ α).get? key = some a
  induction es with
  | nil => cases h
  | cons e es ih =>
    rw [get?_cons] at h
    by_cases hkey : e.1 = key
    · rw [if_pos hkey] at h
      have he : keep e = true := by
        rw [← hkeep, ← hkey, ← Option.some.inj h]
      rw [List.filter_cons_of_pos he, get?_cons, if_pos hkey, h]
    · rw [if_neg hkey] at h
      rw [List.filter_cons]
      split
      · rw [get?_cons, if_neg hkey]
        exact ih h
      · exact ih h

/-- Where each key stands once, what is looked up is dropped exactly if its entry is. -/
theorem get?_filter {t : Table κ α} (h : t.keys.Nodup) (keep : κ × α → Bool) (key : κ) :
    (⟨t.entries.filter keep⟩ : Table κ α).get? key =
      (t.get? key).filter fun a => keep (key, a) := by
  cases hkey : t.get? key with
  | none => exact get?_filter_of_none keep hkey
  | some a =>
    rw [Option.filter_some]
    split
    · rename_i hkeep
      exact get?_filter_of_some hkey hkeep
    · rename_i hdrop
      rw [Option.eq_none_iff_forall_ne_some]
      intro a' ha'
      obtain ⟨hmem, hkeep⟩ := List.mem_filter.mp (mem_of_get? ha')
      have hsame := get?_of_mem h hmem
      rw [hkey] at hsame
      exact hdrop (Option.some.inj hsame ▸ hkeep)

theorem get?_insert (t : Table κ α) (key key' : κ) (a : α) :
    (t.insert key a).get? key' = if key = key' then some a else t.get? key' := by
  split
  · rename_i h
    rw [h, get?_insert_self]
  · rename_i h
    rw [get?_insert_of_ne t a h]

theorem get?_erase (t : Table κ α) (key key' : κ) :
    (t.erase key).get? key' = if key = key' then none else t.get? key' := by
  split
  · rename_i h
    rw [h, get?_erase_self]
  · rename_i h
    rw [get?_erase_of_ne t h]

/-- Dropping a key that is not there changes nothing. -/
theorem erase_of_none {t : Table κ α} {key : κ} (h : t.get? key = none) : t.erase key = t := by
  unfold get? at h
  rw [Option.map_eq_none_iff, List.find?_eq_none] at h
  unfold erase
  rw [List.filter_eq_self.mpr fun e he => by simpa using h e he]

/-- All that is looked up in this table is found in the other. -/
def Within (t u : Table κ α) : Prop := ∀ key a, t.get? key = some a → u.get? key = some a

theorem Within.refl (t : Table κ α) : t.Within t := fun _ _ h => h

theorem Within.trans {t u v : Table κ α} (h : t.Within u) (h' : u.Within v) : t.Within v :=
  fun key a ha => h' key a (h key a ha)

theorem within_erase (t : Table κ α) (key : κ) : (t.erase key).Within t := by
  intro key' a h
  rw [get?_erase] at h
  split at h
  · cases h
  · exact h

theorem get?_adjust (t : Table κ α) (pick : κ → Bool) (key : κ) :
    (t.adjust change pick).get? key = if pick key then (t.get? key).map change else t.get? key := by
  obtain ⟨es⟩ := t
  show (⟨adjustEntries change pick es⟩ : Table κ α).get? key = _
  induction es generalizing pick with
  | nil => split <;> rfl
  | cons e es ih =>
    rw [adjustEntries, get?_cons, get?_cons, ih]
    by_cases h : e.1 = key
    · subst h
      by_cases hpick : pick e.1 <;> simp [hpick]
    · have hkey : key ≠ e.1 := fun hk => h hk.symm
      by_cases hpick : pick e.1 <;> simp [hpick, h, hkey]

theorem adjust_adjust (hchange : ∀ a, change (change a) = change a) (t : Table κ α)
    (p q : κ → Bool) :
    (t.adjust change p).adjust change q = t.adjust change fun key => p key || q key := by
  obtain ⟨es⟩ := t
  refine congrArg Table.mk ?_
  show adjustEntries change q (adjustEntries change p es) = _
  induction es generalizing p q with
  | nil => rfl
  | cons e es ih =>
    rw [adjustEntries, adjustEntries, adjustEntries]
    have hkey : (if p e.1 then (e.1, change e.2) else e).1 = e.1 := by split <;> rfl
    rw [hkey, ih]
    congr 1
    · by_cases hp : p e.1 <;> by_cases hq : q e.1 <;> simp [hp, hq, hchange]
    · congr 1
      funext key
      by_cases h : key = e.1 <;> simp [h]

/-- Nothing changes if the values of the picked keys stay the same. -/
theorem adjust_eq_self (t : Table κ α) {pick : κ → Bool}
    (h : ∀ key a, pick key = true → t.get? key = some a → change a = a) :
    t.adjust change pick = t := by
  obtain ⟨es⟩ := t
  refine congrArg Table.mk ?_
  show adjustEntries change pick es = es
  induction es generalizing pick with
  | nil => rfl
  | cons e es ih =>
    rw [adjustEntries, ih]
    · congr 1
      split
      · rename_i hpick
        have he : change e.2 = e.2 := h e.1 e.2 hpick (by rw [get?_cons, if_pos rfl])
        rw [he]
      · rfl
    · intro key a hpick ha
      rw [Bool.and_eq_true, decide_eq_true_eq] at hpick
      refine h key a hpick.1 ?_
      rwa [get?_cons, if_neg fun hk => hpick.2 hk.symm]

theorem insert_eq_adjust {t : Table κ α} {key : κ} {a : α} (h : t.get? key = some a) :
    t.insert key (change a) = t.adjust change fun k => decide (k = key) := by
  obtain ⟨es⟩ := t
  refine congrArg Table.mk ?_
  show put key (change a) es = adjustEntries change _ es
  induction es with
  | nil => cases h
  | cons e es ih =>
    rw [get?_cons] at h
    rw [put, adjustEntries]
    by_cases hkey : e.1 = key
    · rw [if_pos hkey] at h ⊢
      cases h
      subst hkey
      have hrest : adjustEntries change (fun k => decide (k = e.1) && decide (k ≠ e.1)) es = es :=
        congrArg entries (adjust_eq_self ⟨es⟩ fun k a hpick _ => by simp at hpick)
      rw [hrest]
      simp
    · rw [if_neg hkey] at h ⊢
      rw [ih h]
      simp only [hkey]
      congr 2
      funext k
      by_cases hk : k = key
      · subst hk
        simp [Ne.symm hkey]
      · simp [hk]

end Table

end RingKeeper
