import Mathlib.Data.List.Basic
import RingKeeper.Json.Shape
import RingKeeper.Proofs.Table
import RingKeeper.Proofs.Timestamp

/-!
# Regular forms

1. `Shape.read_read` says that a document in its regular form is read as it stands, so that what was
   read once and written can be read again. The shape has to be proper (`Shape.isProper`): no key
   stands in two places of one object, and each number can be zero.
2. `Shape.readGroups_read` says the same of the fields of an object, which may stand among others
   (`Shape.all_readGroups` says which there are).
-/

namespace RingKeeper.Json

/-! ## Lists that are read item by item -/

section
variable {α β : Type} {f : α → Option β} {as : List α} {bs : List β}

theorem exists_of_mem_mapM (h : as.mapM f = some bs) : ∀ b ∈ bs, ∃ a ∈ as, f a = some b := by
  induction as generalizing bs with
  | nil =>
    cases h
    exact nofun
  | cons a as ih =>
    simp only [List.mapM_cons, Option.bind_eq_bind, Option.bind_eq_some_iff] at h
    obtain ⟨b, hb, bs, hbs, h⟩ := h
    cases h
    intro b' hb'
    rcases List.mem_cons.mp hb' with rfl | hb'
    · exact ⟨a, List.mem_cons_self, hb⟩
    · obtain ⟨a', ha', hread⟩ := ih hbs b' hb'
      exact ⟨a', List.mem_cons_of_mem a ha', hread⟩

theorem mapM_eq_self {f : α → Option α} (h : ∀ a ∈ as, f a = some a) : as.mapM f = some as := by
  induction as with
  | nil => rfl
  | cons a as ih =>
    obtain ⟨ha, has⟩ := List.forall_mem_cons.mp h
    rw [List.mapM_cons, ha, ih has]
    rfl

end

/-! ## Fields -/

namespace Fields

variable {α : Type} {fs gs : Fields} {key : String} {j : Json} {read : Json → Option α} {a : α}

theorem all_append (fs gs : Fields) (key : String) :
    Fields.all (fs ++ gs) key = Fields.all fs key ++ Fields.all gs key := List.filterMap_append

theorem all_nil (key : String) : Fields.all [] key = [] := rfl

theorem all_cons_self (key : String) (j : Json) (fs : Fields) :
    Fields.all ((key, j) :: fs) key = j :: Fields.all fs key := by
  simp [Fields.all]

theorem all_cons_of_ne {k : String} (h : k ≠ key) (j : Json) (fs : Fields) :
    Fields.all ((k, j) :: fs) key = Fields.all fs key := by
  simp [Fields.all, h]

theorem readOptional_of_ne (h : j ≠ .null) : readOptional read j = (read j).map some := by
  cases j <;> first | rfl | exact absurd rfl h

theorem read?_absent (h : Fields.all fs key = []) : fs.read? key read = some none := by
  unfold read?
  rw [h]
  rfl

theorem read?_single (h : Fields.all fs key = [j]) : fs.read? key read = readOptional read j := by
  unfold read?
  rw [h]
  cases hread : readOptional read j <;> simp [hread]

/-- A value of a field was read from one of its documents, which was not null. -/
theorem exists_of_read? (h : fs.read? key read = some (some a)) :
    ∃ j, j ≠ .null ∧ read j = some a := by
  obtain ⟨values, hvalues, hlast⟩ := Option.map_eq_some_iff.mp h
  have hmem : some a ∈ values := List.mem_of_getLast? (Option.join_eq_some_iff.mp hlast)
  obtain ⟨j, -, hj⟩ := exists_of_mem_mapM hvalues _ hmem
  by_cases hnull : j = .null
  · subst hnull
    cases hj
  · exact ⟨j, hnull, by simpa [readOptional_of_ne hnull] using hj⟩

end Fields

namespace Shape

/-! ## Settled documents -/

section
variable {fs : Fields} {key : String}

theorem all_settledFields (h : Fields.all fs key = []) :
    Fields.all (settledFields fs) key = [] := by
  induction fs with
  | nil => rfl
  | cons f fs ih =>
    have hne : f.1 ≠ key := by
      rintro rfl
      rw [show f = (f.1, f.2) from rfl, Fields.all_cons_self] at h
      cases h
    rw [show f = (f.1, f.2) from rfl, Fields.all_cons_of_ne hne] at h
    rw [settledFields]
    split
    · rw [Fields.all_cons_of_ne hne]
      exact ih h
    · exact ih h

end

mutual

theorem settled_settled : (j : Json) → settled (settled j) = settled j
  | .arr items => by simp [settled, settledItems_settled items]
  | .obj fs => by simp [settled, settledFields_settled fs]
  | .null | .bool _ | .int _ | .real _ | .str _ | .illegible => rfl

theorem settledItems_settled : (js : List Json) → settledItems (settledItems js) = settledItems js
  | [] => rfl
  | j :: js => by simp [settledItems, settled_settled j, settledItems_settled js]

theorem settledFields_settled : (fs : Fields) → settledFields (settledFields fs) = settledFields fs
  | [] => rfl
  | f :: fs => by
    rw [settledFields]
    split
    · rename_i hall
      have hnone := all_settledFields (List.isEmpty_iff.mp hall)
      simp [settledFields, hnone, settled_settled f.2, settledFields_settled fs]
    · exact settledFields_settled fs

end

mutual

theorem legible_settled : (j : Json) → j.legible = true → (settled j).legible = true
  | .arr items, h => by
    rw [legible] at h
    simp [settled, legible, legibleItems_settled items h]
  | .obj fs, h => by
    rw [legible] at h
    simp [settled, legible, legibleFields_settled fs h]
  | .null, _ | .bool _, _ | .int _, _ | .real _, _ | .str _, _ => rfl
  | .illegible, h => h

theorem legibleItems_settled : (js : List Json) → legibleItems js = true →
    legibleItems (settledItems js) = true
  | [], _ => rfl
  | j :: js, h => by
    rw [legibleItems, Bool.and_eq_true] at h
    simp [settledItems, legibleItems, legible_settled j h.1, legibleItems_settled js h.2]

theorem legibleFields_settled : (fs : Fields) → legibleFields fs = true →
    legibleFields (settledFields fs) = true
  | [], _ => rfl
  | f :: fs, h => by
    rw [legibleFields, Bool.and_eq_true] at h
    rw [settledFields]
    split
    · simp [legibleFields, legible_settled f.2 h.1, legibleFields_settled fs h.2]
    · exact legibleFields_settled fs h.2

end

mutual

theorem height_settled : (j : Json) → (settled j).height ≤ j.height
  | .arr items => by
    have hitems := heightOfItems_settled items
    simp only [settled, height]
    omega
  | .obj fs => by
    have hfields := heightOfFields_settled fs
    simp only [settled, height]
    omega
  | .null | .bool _ | .int _ | .real _ | .str _ | .illegible => by simp [settled]

theorem heightOfItems_settled :
    (js : List Json) → heightOfItems (settledItems js) ≤ heightOfItems js
  | [] => by simp [settledItems]
  | j :: js => by
    have hj := height_settled j
    have hjs := heightOfItems_settled js
    simp only [settledItems, heightOfItems]
    omega

theorem heightOfFields_settled : (fs : Fields) →
    heightOfFields (settledFields fs) ≤ heightOfFields fs
  | [] => by simp [settledFields]
  | f :: fs => by
    have hf := height_settled f.2
    have hfs := heightOfFields_settled fs
    rw [settledFields]
    split
    · simp only [heightOfFields]
      omega
    · simp only [heightOfFields]
      omega

end

theorem isValueAt_settled {depth : Nat} {j : Json} (h : j.isValueAt depth = true) :
    (settled j).isValueAt depth = true := by
  unfold isValueAt at h ⊢
  rw [Bool.and_eq_true, decide_eq_true_eq] at h ⊢
  have hheight := height_settled j
  exact ⟨legible_settled j h.1, by omega⟩

theorem settled_eq_null {j : Json} (h : settled j = .null) : j = .null := by
  cases j <;> simp_all [settled]

/-! ## Proper shapes -/

/-- All keys of the groups. -/
def keysOf (gs : List Group) : List String := gs.flatMap (·.1)

mutual

/-- Whether no key stands in two places of one object and every number can be zero. -/
def isProper : Shape → Bool
  | whole width => decide (2 ≤ width)
  | list item => item.isProper
  | table value => value.isProper
  | object groups => decide (keysOf groups).Nodup && areProper groups
  | _ => true

/-- Whether the values of all groups have proper shapes. -/
def areProper : List Group → Bool
  | [] => true
  | g :: gs => g.2.2.isProper && areProper gs

end

/-- What reading a field needs of the shape: a value is read as it stands once it was read, and so
is the value of a required field that is absent, unless it is null. -/
structure Rereads (read : Json → Option Json) (empty : Json) : Prop where
  value : ∀ j j', read j = some j' → j ≠ .null → j' ≠ .null ∧ read j' = some j'
  absent : empty ≠ .null → read empty = some empty

/-! ## Fields that are read again -/

section
variable {required : Bool} {shape : Shape} {read : Json → Option Json} {fs fs' fs₁ : Fields}
  {key k : String} {keys : List String} {here : List Fields} {gs : List Group} {depth : Nat}

theorem all_readField (h : readField required shape read fs key = some fs') (hne : key ≠ k) :
    Fields.all fs' k = [] := by
  simp only [readField, Option.bind_eq_bind, Option.bind_eq_some_iff] at h
  obtain ⟨value, -, h⟩ := h
  cases value with
  | some j =>
    cases h
    exact Fields.all_cons_of_ne hne j []
  | none =>
    cases required with
    | true =>
      cases h
      exact Fields.all_cons_of_ne hne _ []
    | false =>
      cases h
      rfl

theorem readField_read (hread : Rereads read shape.empty)
    (h : readField required shape read fs key = some fs')
    (hall : Fields.all fs₁ key = Fields.all fs' key) :
    readField required shape read fs₁ key = some fs' := by
  simp only [readField, Option.bind_eq_bind, Option.bind_eq_some_iff] at h ⊢
  obtain ⟨value, hvalue, h⟩ := h
  cases value with
  | some j =>
    cases h
    obtain ⟨j₀, hne₀, hj₀⟩ := Fields.exists_of_read? hvalue
    obtain ⟨hne, hj⟩ := hread.value j₀ j hj₀ hne₀
    rw [Fields.all_cons_self, Fields.all_nil] at hall
    refine ⟨some j, ?_, rfl⟩
    rw [Fields.read?_single hall, Fields.readOptional_of_ne hne, hj]
    rfl
  | none =>
    cases required with
    | false =>
      cases h
      exact ⟨none, Fields.read?_absent hall, rfl⟩
    | true =>
      cases h
      rw [if_pos rfl, Fields.all_cons_self, Fields.all_nil] at hall
      by_cases hnull : shape.empty = .null
      · refine ⟨none, ?_, rfl⟩
        rw [Fields.read?_single hall, hnull]
        rfl
      · refine ⟨some shape.empty, ?_, rfl⟩
        rw [Fields.read?_single hall, Fields.readOptional_of_ne hnull, hread.absent hnull]
        rfl

theorem all_mapM_readField (h : keys.mapM (readField required shape read fs) = some here)
    (hk : k ∉ keys) : Fields.all here.flatten k = [] := by
  induction keys generalizing here with
  | nil =>
    cases h
    rfl
  | cons key keys ih =>
    simp only [List.mapM_cons, Option.bind_eq_bind, Option.bind_eq_some_iff] at h
    obtain ⟨first, hfirst, others, hothers, h⟩ := h
    cases h
    obtain ⟨hne, hk⟩ := not_or.mp (List.mem_cons.not.mp hk)
    rw [List.flatten_cons, Fields.all_append, all_readField hfirst (Ne.symm hne), ih hothers hk]
    rfl

theorem mapM_readField_read (hread : Rereads read shape.empty) (hkeys : keys.Nodup)
    (h : keys.mapM (readField required shape read fs) = some here)
    (hall : ∀ key ∈ keys, Fields.all fs₁ key = Fields.all here.flatten key) :
    keys.mapM (readField required shape read fs₁) = some here := by
  induction keys generalizing here with
  | nil => exact h
  | cons key keys ih =>
    simp only [List.mapM_cons, Option.bind_eq_bind, Option.bind_eq_some_iff] at h
    obtain ⟨first, hfirst, others, hothers, h⟩ := h
    cases h
    obtain ⟨hkey, hkeys⟩ := List.nodup_cons.mp hkeys
    obtain ⟨hhead, htail⟩ := List.forall_mem_cons.mp hall
    rw [List.flatten_cons, Fields.all_append, all_mapM_readField hothers hkey,
      List.append_nil] at hhead
    have hrest : keys.mapM (readField required shape read fs₁) = some others := by
      refine ih hkeys hothers fun k hk => ?_
      have hne : key ≠ k := fun heq => hkey (heq ▸ hk)
      rw [htail k hk, List.flatten_cons, Fields.all_append, all_readField hfirst hne,
        List.nil_append]
    rw [List.mapM_cons, readField_read hread hfirst hhead, hrest]
    rfl

/-- Reading groups leaves no other fields than theirs. -/
theorem all_readGroups (h : readGroups depth gs fs = some fs') (hk : k ∉ keysOf gs) :
    Fields.all fs' k = [] := by
  induction gs generalizing fs' with
  | nil =>
    cases h
    rfl
  | cons g gs ih =>
    simp only [readGroups, Option.bind_eq_bind, Option.bind_eq_some_iff] at h
    obtain ⟨here, hhere, others, hothers, h⟩ := h
    cases h
    rw [keysOf, List.flatMap_cons, List.mem_append, not_or] at hk
    rw [Fields.all_append, all_mapM_readField hhere hk.1, ih hothers hk.2]
    rfl

/-- The required fields are what is read where there are none. -/
theorem readGroups_nil (depth : Nat) (gs : List Group) :
    readGroups depth gs [] = some (emptyFields gs) := by
  have hfield : ∀ (required : Bool) (shape : Shape) (read : Json → Option Json) (key : String),
      readField required shape read [] key =
        some (if required then [(key, shape.empty)] else []) := fun _ _ _ _ => rfl
  have hkeys : ∀ (required : Bool) (shape : Shape) (read : Json → Option Json)
      (keys : List String), keys.mapM (readField required shape read []) =
        some (keys.map fun key => if required then [(key, shape.empty)] else []) := by
    intro required shape read keys
    induction keys with
    | nil => rfl
    | cons key keys ih =>
      rw [List.mapM_cons, hfield, ih]
      rfl
  induction gs with
  | nil => rfl
  | cons g gs ih =>
    have hflatten : (g.1.map fun key => if g.2.1 then [(key, g.2.2.empty)] else []).flatten =
        if g.2.1 then g.1.map fun key => (key, g.2.2.empty) else [] := by
      generalize g.1 = keys
      cases g.2.1 <;> induction keys <;> simp_all
    rw [readGroups, hkeys, ih, emptyFields, ← hflatten]
    rfl

end

/-! ## Reading again -/

theorem read_ne_null {shape : Shape} {depth : Nat} {j j' : Json}
    (h : shape.read depth j = some j') (hne : j ≠ .null) : j' ≠ .null := by
  rintro rfl
  unfold read at h
  split at h <;> simp_all
  exact hne (settled_eq_null h.2)

theorem mapM_read_read {read : Json → Option Json}
    (hread : ∀ j j', read j = some j' → read j' = some j') {js js' : List Json}
    (h : js.mapM read = some js') : js'.mapM read = some js' := by
  refine mapM_eq_self fun j' hj' => ?_
  obtain ⟨j, -, hj⟩ := exists_of_mem_mapM h j' hj'
  exact hread j j' hj

theorem mapM_readEntry_read {read : Json → Option Json}
    (hread : ∀ j j', read j = some j' → read j' = some j') {fs es : Fields}
    (h : fs.mapM (readEntry read) = some es) :
    (Table.ofList es).entries.mapM (readEntry read) = some (Table.ofList es).entries := by
  refine mapM_eq_self fun e he => ?_
  obtain ⟨f, -, hf⟩ := exists_of_mem_mapM h e (Table.mem_ofList he)
  obtain ⟨j, hj, rfl⟩ := Option.map_eq_some_iff.mp hf
  exact Option.map_eq_some_iff.mpr ⟨j, hread f.2 j hj, rfl⟩

mutual

/-- What was read is read as it stands. -/
theorem read_read : (shape : Shape) → shape.isProper = true → ∀ {depth : Nat} {j j' : Json},
    shape.read depth j = some j' → shape.read depth j' = some j'
  | .text, _, _, j, _, h => by
    cases j <;> cases h
    rfl
  | .flag, _, _, j, _, h => by
    cases j <;> cases h
    rfl
  | .whole width, _, _, j, _, h => by
    cases j with
    | int n =>
      rw [read] at h
      split at h
      · rename_i hsigned
        cases h
        rw [read, if_pos hsigned]
      · cases h
    | _ => cases h
  | .timestamp, _, _, j, _, h => by
    cases j with
    | str s =>
      obtain ⟨t, ht, rfl⟩ := Option.map_eq_some_iff.mp h
      have hread := Timestamp.ofText?_text (Timestamp.isPoint_of_ofText? ht)
      simp [read, hread]
    | _ => cases h
  | .bytes, _, _, j, _, h => by
    cases j with
    | null =>
      cases h
      rfl
    | str s =>
      rw [read] at h
      split at h
      · rename_i hbytes
        cases h
        rw [read, if_pos hbytes]
      · cases h
    | _ => cases h
  | .numberOrText, _, _, j, _, h => by
    cases j with
    | str s =>
      cases h
      rfl
    | int n =>
      rw [read] at h
      split at h
      · rename_i hsigned
        cases h
        rw [read, if_pos hsigned]
      · cases h
    | _ => cases h
  | .any, _, depth, j, _, h => by
    rw [read] at h
    split at h
    · rename_i hvalue
      cases h
      rw [read, if_pos (isValueAt_settled hvalue), settled_settled]
    · cases h
  | .list item, hproper, depth, j, _, h => by
    cases j with
    | arr items =>
      obtain ⟨js, hjs, rfl⟩ := Option.map_eq_some_iff.mp h
      have hagain := mapM_read_read (fun _ _ => read_read item hproper) hjs
      simp [read, hagain]
    | _ => cases h
  | .table value, hproper, depth, j, _, h => by
    cases j with
    | obj fs =>
      obtain ⟨es, hes, rfl⟩ := Option.map_eq_some_iff.mp h
      have hagain := mapM_readEntry_read (fun _ _ => read_read value hproper) hes
      simp [read, hagain, Table.ofList_entries (Table.nodup_ofList es)]
    | _ => cases h
  | .object groups, hproper, depth, j, _, h => by
    cases j with
    | obj fs =>
      obtain ⟨fs', hfs', rfl⟩ := Option.map_eq_some_iff.mp h
      rw [isProper, Bool.and_eq_true, decide_eq_true_eq] at hproper
      have hagain := readGroups_read groups hproper.2 hproper.1 hfs' fun _ _ => rfl
      simp [read, hagain]
    | _ => cases h

/-- What a required field holds when it is absent is read as it stands. -/
theorem read_empty : (shape : Shape) → shape.isProper = true → shape.empty ≠ .null →
    ∀ {depth : Nat}, shape.read depth shape.empty = some shape.empty
  | .text, _, _, _ => rfl
  | .flag, _, _, _ => rfl
  | .whole width, hproper, _, _ => by
    have hwidth : 2 ≤ width := of_decide_eq_true hproper
    have hsigned : isSigned width 0 = true := by
      rw [isSigned, Bool.and_eq_true, decide_eq_true_eq, decide_eq_true_eq]
      omega
    simp [empty, read, hsigned]
  | .timestamp, _, _, _ => by
    have hread : Timestamp.ofText? "1970-01-01T00:00:00Z" = some ⟨⟨1970, 1, 1⟩, 0, 0⟩ := by decide
    have htext : (⟨⟨1970, 1, 1⟩, 0, 0⟩ : Timestamp).text = "1970-01-01T00:00:00Z" := by decide
    simp [empty, read, hread, htext]
  | .bytes, _, _, _ => rfl
  | .numberOrText, _, _, _ => rfl
  | .any, _, hne, _ => absurd rfl hne
  | .list _, _, _, _ => rfl
  | .table _, _, _, _ => rfl
  | .object groups, hproper, _, depth => by
    rw [isProper, Bool.and_eq_true, decide_eq_true_eq] at hproper
    have hagain := readGroups_read groups hproper.2 hproper.1 (readGroups_nil (depth + 1) groups)
      fun _ _ => rfl
    simp [empty, read, hagain]

/-- The fields that were read are read as they stand, also where there are others beside them. -/
theorem readGroups_read : (gs : List Group) → areProper gs = true → (keysOf gs).Nodup →
    ∀ {depth : Nat} {fs fs' fs₁ : Fields}, readGroups depth gs fs = some fs' →
      (∀ key ∈ keysOf gs, Fields.all fs₁ key = Fields.all fs' key) →
      readGroups depth gs fs₁ = some fs'
  | [], _, _, _, _, _, _, h, _ => h
  | g :: gs, hproper, hkeys, depth, fs, fs', fs₁, h, hall => by
    rw [areProper, Bool.and_eq_true] at hproper
    rw [keysOf, List.flatMap_cons, List.nodup_append] at hkeys
    obtain ⟨hkeys, hothers, hdisjoint⟩ := hkeys
    simp only [readGroups, Option.bind_eq_bind, Option.bind_eq_some_iff] at h
    obtain ⟨here, hhere, others, hreadOthers, h⟩ := h
    cases h
    have hrereads : Rereads (g.2.2.read depth) g.2.2.empty :=
      ⟨fun j j' hj hne => ⟨read_ne_null hj hne, read_read g.2.2 hproper.1 hj⟩,
        fun hne => read_empty g.2.2 hproper.1 hne⟩
    have hfirst : g.1.mapM (readField g.2.1 g.2.2 (g.2.2.read depth) fs₁) = some here := by
      refine mapM_readField_read hrereads hkeys hhere fun key hkey => ?_
      have hnone : Fields.all others key = [] :=
        all_readGroups hreadOthers fun hmem => hdisjoint key hkey key hmem rfl
      rw [hall key (List.mem_flatMap.mpr ⟨g, List.mem_cons_self, hkey⟩), Fields.all_append, hnone,
        List.append_nil]
    have hrest : readGroups depth gs fs₁ = some others := by
      refine readGroups_read gs hproper.2 hothers hreadOthers fun key hkey => ?_
      have hnone : Fields.all here.flatten key = [] :=
        all_mapM_readField hhere fun hmem => hdisjoint key hmem key hkey rfl
      have hmem : key ∈ keysOf (g :: gs) := by
        rw [keysOf, List.flatMap_cons]
        exact List.mem_append_right g.1 hkey
      rw [hall key hmem, Fields.all_append, hnone, List.nil_append]
    rw [readGroups, hfirst, hrest]
    rfl

end

end Shape

end RingKeeper.Json
