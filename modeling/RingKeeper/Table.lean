/-!
# Tables

A table holds values under keys, in the order in which the keys were first written. A key is looked
up by its first entry; writing a key replaces that entry or adds one at the end, and leaves all
other keys alone.
-/

namespace RingKeeper

structure Table (κ α : Type) where
  entries : List (κ × α)
deriving DecidableEq, Repr

/-- Labels, annotations and registry entries are tables from texts to texts. -/
abbrev TextTable : Type := Table String String

namespace Table

variable {κ α : Type}

def empty : Table κ α := ⟨[]⟩

instance : EmptyCollection (Table κ α) := ⟨empty⟩

def keys (t : Table κ α) : List κ := t.entries.map (·.1)

variable [DecidableEq κ]

def get? (t : Table κ α) (key : κ) : Option α :=
  (t.entries.find? fun e => decide (e.1 = key)).map (·.2)

/-- Replaces the first entry of the key, or adds one at the end. -/
def put (key : κ) (value : α) : List (κ × α) → List (κ × α)
  | [] => [(key, value)]
  | e :: es => if e.1 = key then (key, value) :: es else e :: put key value es

def insert (t : Table κ α) (key : κ) (value : α) : Table κ α := ⟨put key value t.entries⟩

def erase (t : Table κ α) (key : κ) : Table κ α :=
  ⟨t.entries.filter fun e => decide (e.1 ≠ key)⟩

/-- The table of these entries, in which a later entry of a key replaces an earlier one. -/
def ofList (entries : List (κ × α)) : Table κ α :=
  entries.foldl (fun t e => t.insert e.1 e.2) empty

@[simp] theorem get?_empty (key : κ) : (empty : Table κ α).get? key = none := rfl

@[simp] theorem get?_insert_self (t : Table κ α) (key : κ) (value : α) :
    (t.insert key value).get? key = some value := by
  obtain ⟨es⟩ := t
  induction es with
  | nil => simp [insert, put, get?]
  | cons e es ih =>
    by_cases h : e.1 = key
    · simp [insert, put, get?, h]
    · simpa [insert, put, get?, h] using ih

@[simp] theorem get?_insert_of_ne (t : Table κ α) {key key' : κ} (value : α) (h : key ≠ key') :
    (t.insert key value).get? key' = t.get? key' := by
  obtain ⟨es⟩ := t
  induction es with
  | nil => simp [insert, put, get?, h]
  | cons e es ih =>
    by_cases hk : e.1 = key
    · have hne : e.1 ≠ key' := by rw [hk]; exact h
      simp [insert, put, get?, hk, h]
    · by_cases hk' : e.1 = key'
      · simp [insert, put, get?, hk', Ne.symm h]
      · simpa [insert, put, get?, hk, hk'] using ih

theorem put_of_notMem {key : κ} {es : List (κ × α)} (h : key ∉ es.map (·.1)) (value : α) :
    put key value es = es ++ [(key, value)] := by
  induction es with
  | nil => rfl
  | cons e es ih =>
    simp only [List.map_cons, List.mem_cons, not_or] at h
    simp [put, Ne.symm h.1, ih h.2]

theorem foldl_insert (es more : List (κ × α)) (h : ((es ++ more).map (·.1)).Nodup) :
    more.foldl (fun t e => t.insert e.1 e.2) ⟨es⟩ = (⟨es ++ more⟩ : Table κ α) := by
  induction more generalizing es with
  | nil => simp
  | cons e more ih =>
    have hnot : e.1 ∉ es.map (·.1) := by
      intro hmem
      rw [List.map_append, List.nodup_append] at h
      exact h.2.2 e.1 hmem e.1 (by simp) rfl
    have h' : ((es ++ [e] ++ more).map (·.1)).Nodup := by simpa using h
    rw [List.foldl_cons, insert, put_of_notMem hnot, ih _ h']
    simp

/-- A table that has each key once consists of its entries. -/
theorem ofList_entries {t : Table κ α} (h : t.keys.Nodup) : ofList t.entries = t := by
  exact foldl_insert [] t.entries h

@[simp] theorem get?_erase_self (t : Table κ α) (key : κ) : (t.erase key).get? key = none := by
  simp [erase, get?]

theorem get?_erase_of_ne (t : Table κ α) {key key' : κ} (h : key ≠ key') :
    (t.erase key).get? key' = t.get? key' := by
  obtain ⟨es⟩ := t
  induction es with
  | nil => rfl
  | cons e es ih =>
    by_cases hk : e.1 = key
    · have hne : e.1 ≠ key' := by rw [hk]; exact h
      simpa [erase, get?, hk, h] using ih
    · by_cases hk' : e.1 = key'
      · simp [erase, get?, hk', Ne.symm h]
      · simpa [erase, get?, hk, hk'] using ih

end Table

end RingKeeper
