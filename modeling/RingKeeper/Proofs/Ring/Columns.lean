import RingKeeper.Proofs.Text
import RingKeeper.Ring.Grammar

/-!
# The columns of a row

1. `Column` says how each column is written. All of it is visible (`Column.Load.beginsBare` and its
   like), so that blanks can end a column.
2. A column is read exactly if it is written so and a blank ends it: `column?_append` and
   `column?_some`, and for the load, which has a space inside, `load?_append` and `load?_some`.
3. `rack?_some` says which text stands for the rack, and `rack?_of_holdsRack` that there is one
   wherever there is room for it.
-/

namespace RingKeeper.Ring

open Text

/-! ## How the columns are written -/

namespace Column

variable {w : List Char}

/-- One digit or more. -/
def Digits (w : List Char) : Prop := w ≠ [] ∧ ∀ c ∈ w, c.isDigit = true

/-- Up or down; then normal, leaving, joining or moving. -/
def State (w : List Char) : Prop := ∃ a ∈ ['U', 'D'], ∃ b ∈ ['N', 'L', 'J', 'M'], w = [a, b]

/-- Four groups of digits with dots between them. -/
def Address (w : List Char) : Prop :=
  ∃ a b c d, Digits a ∧ Digits b ∧ Digits c ∧ Digits d ∧
    w = a ++ '.' :: (b ++ '.' :: (c ++ '.' :: d))

/-- Digits, and perhaps a fraction. -/
def Number (w : List Char) : Prop :=
  Digits w ∨ ∃ whole fraction, Digits whole ∧ Digits fraction ∧ w = whole ++ '.' :: fraction

/-- The units of a load. -/
def units : List String := ["bytes", "B", "KiB", "MiB", "GiB", "TiB", "PiB"]

/-- A number, one space, and a unit. -/
def Load (w : List Char) : Prop :=
  ∃ number, Number number ∧ ∃ unit ∈ units, w = number ++ ' ' :: unit.toList

def Ownership (w : List Char) : Prop :=
  w ≠ [] ∧ ∀ c ∈ w, c.isDigit = true ∨ c ∈ ['?', '.', '%']

def HostId (w : List Char) : Prop := w ≠ [] ∧ ∀ c ∈ w, c.isAlphanum = true ∨ c = '-'

/-! ### Columns are visible -/

/-- Visible characters of ASCII. -/
def Visible (w : List Char) : Prop := ∀ c ∈ w, 0x21 ≤ c.toNat ∧ c.toNat ≤ 0x7E

instance (w : List Char) : Decidable (Visible w) :=
  List.decidableBAll (fun c : Char => 0x21 ≤ c.toNat ∧ c.toNat ≤ 0x7E) w

theorem Visible.isBlank (h : Visible w) {c : Char} (hc : c ∈ w) : isBlank c = false := by
  obtain ⟨hlow, hhigh⟩ := h c hc
  simp only [Text.isBlank, blankRanges, List.any_cons, List.any_nil]
  simp
  omega

theorem Visible.append {v : List Char} (hv : Visible v) (hw : Visible w) : Visible (v ++ w) := by
  intro c hc
  rcases List.mem_append.mp hc with hc | hc
  · exact hv c hc
  · exact hw c hc

theorem Visible.cons {c : Char} (hc : 0x21 ≤ c.toNat ∧ c.toNat ≤ 0x7E) (hw : Visible w) :
    Visible (c :: w) := List.forall_mem_cons.mpr ⟨hc, hw⟩

theorem visible_of_isDigit {c : Char} (h : c.isDigit = true) :
    0x21 ≤ c.toNat ∧ c.toNat ≤ 0x7E := by
  have hrange : 48 ≤ c.toNat ∧ c.toNat ≤ 57 := by
    simpa [Char.isDigit, UInt32.le_iff_toNat_le] using h
  omega

theorem visible_of_isAlphanum {c : Char} (h : c.isAlphanum = true) :
    0x21 ≤ c.toNat ∧ c.toNat ≤ 0x7E := by
  rcases Bool.or_eq_true_iff.mp h with halpha | hdigit
  · rcases Bool.or_eq_true_iff.mp halpha with hupper | hlower
    · obtain ⟨hlow, hhigh⟩ := of_decide_eq_true hupper
      have hrange : 65 ≤ c.toNat ∧ c.toNat ≤ 90 :=
        ⟨UInt32.le_iff_toNat_le.mp hlow, UInt32.le_iff_toNat_le.mp hhigh⟩
      omega
    · obtain ⟨hlow, hhigh⟩ := Bool.and_eq_true_iff.mp hlower
      have hrange : 97 ≤ c.toNat ∧ c.toNat ≤ 122 :=
        ⟨UInt32.le_iff_toNat_le.mp (of_decide_eq_true hlow),
          UInt32.le_iff_toNat_le.mp (of_decide_eq_true hhigh)⟩
      omega
  · exact visible_of_isDigit hdigit

theorem Digits.visible (h : Digits w) : Visible w := fun c hc => visible_of_isDigit (h.2 c hc)

theorem State.visible (h : State w) : Visible w := by
  have hfirst : Visible ['U', 'D'] := by decide
  have hsecond : Visible ['N', 'L', 'J', 'M'] := by decide
  obtain ⟨a, ha, b, hb, rfl⟩ := h
  exact .cons (hfirst a ha) (.cons (hsecond b hb) nofun)

theorem Address.visible (h : Address w) : Visible w := by
  obtain ⟨a, b, c, d, ha, hb, hc, hd, rfl⟩ := h
  refine ha.visible.append (.cons (by decide) (hb.visible.append (.cons (by decide) ?_)))
  exact hc.visible.append (.cons (by decide) hd.visible)

theorem Number.visible (h : Number w) : Visible w := by
  rcases h with h | ⟨a, b, ha, hb, rfl⟩
  · exact h.visible
  · exact ha.visible.append (.cons (by decide) hb.visible)

theorem Ownership.visible (h : Ownership w) : Visible w := by
  have hmarks : Visible ['?', '.', '%'] := by decide
  intro c hc
  rcases h.2 c hc with hdigit | hmark
  · exact visible_of_isDigit hdigit
  · exact hmarks c hmark

theorem HostId.visible (h : HostId w) : Visible w := by
  intro c hc
  rcases h.2 c hc with halnum | rfl
  · exact visible_of_isAlphanum halnum
  · decide

theorem State.ne_nil (h : State w) : w ≠ [] := by
  obtain ⟨a, -, b, -, rfl⟩ := h
  exact List.cons_ne_nil a [b]

theorem Address.ne_nil (h : Address w) : w ≠ [] := by
  obtain ⟨a, b, c, d, ha, -, -, -, rfl⟩ := h
  exact List.append_ne_nil_of_left_ne_nil ha.1 _

theorem Number.ne_nil (h : Number w) : w ≠ [] := by
  rcases h with h | ⟨a, b, ha, -, rfl⟩
  · exact h.1
  · exact List.append_ne_nil_of_left_ne_nil ha.1 _

/-- A visible text does not begin with a blank, whatever follows it. -/
theorem Visible.beginsBare (h : Visible w) (hne : w ≠ []) (s : List Char) :
    BeginsBare (w ++ s) := by
  obtain ⟨c, v, rfl⟩ := List.exists_cons_of_ne_nil hne
  exact beginsBare_cons.mpr (h.isBlank List.mem_cons_self)

theorem Load.beginsBare (h : Load w) (s : List Char) : BeginsBare (w ++ s) := by
  obtain ⟨number, hnumber, unit, -, rfl⟩ := h
  rw [List.append_assoc]
  exact hnumber.visible.beginsBare hnumber.ne_nil _

end Column

/-! ## The checks of the reader -/

open Column

variable {w s t rest gap : List Char}

theorem isDigits_iff : isDigits w = true ↔ Digits w := by
  cases w <;> simp [isDigits, Digits]

theorem isState_iff : isState w = true ↔ State w := by
  unfold isState State
  constructor
  · intro h
    split at h
    · rename_i a b
      rw [Bool.and_eq_true, List.contains_iff_mem, List.contains_iff_mem] at h
      exact ⟨a, h.1, b, h.2, rfl⟩
    · cases h
  · rintro ⟨a, ha, b, hb, rfl⟩
    rw [Bool.and_eq_true, List.contains_iff_mem, List.contains_iff_mem]
    exact ⟨ha, hb⟩

theorem isOwnership_iff : isOwnership w = true ↔ Ownership w := by
  cases w <;> simp [isOwnership, Ownership]

theorem isHostId_iff : isHostId w = true ↔ HostId w := by
  cases w <;> simp [isHostId, HostId]

/-! ### Parts between separators -/

theorem parts_of_notMem {sep : Char} (h : sep ∉ w) : parts sep w = [w] := by
  induction w with
  | nil => rfl
  | cons c w ih =>
    have hc : c ≠ sep := fun hc => h (hc ▸ List.mem_cons_self)
    have hw : sep ∉ w := fun hmem => h (List.mem_cons_of_mem c hmem)
    rw [parts, if_neg hc, ih hw]

theorem parts_append {sep : Char} (h : sep ∉ w) (s : List Char) :
    parts sep (w ++ sep :: s) = w :: parts sep s := by
  induction w with
  | nil => simp [parts]
  | cons c w ih =>
    have hc : c ≠ sep := fun hc => h (hc ▸ List.mem_cons_self)
    have hw : sep ∉ w := fun hmem => h (List.mem_cons_of_mem c hmem)
    rw [List.cons_append, parts, if_neg hc, ih hw]

theorem parts_ne_nil (sep : Char) (s : List Char) : parts sep s ≠ [] := by
  by_cases hsep : sep ∈ s
  · obtain ⟨w, t, rfl, hw⟩ := List.eq_append_cons_of_mem hsep
    rw [parts_append hw]
    exact List.cons_ne_nil w _
  · rw [parts_of_notMem hsep]
    exact List.cons_ne_nil s []

theorem eq_of_parts_singleton {sep : Char} {p : List Char} (h : parts sep s = [p]) : s = p := by
  by_cases hsep : sep ∈ s
  · obtain ⟨w, t, rfl, hw⟩ := List.eq_append_cons_of_mem hsep
    rw [parts_append hw] at h
    exact absurd (List.cons.inj h).2 (parts_ne_nil sep t)
  · rw [parts_of_notMem hsep] at h
    exact (List.cons.inj h).1

/-- Where there is a second part, the separator stands before it. -/
theorem exists_of_parts_cons {sep : Char} {p q : List Char} {ps : List (List Char)}
    (h : parts sep s = p :: q :: ps) : ∃ t, s = p ++ sep :: t ∧ parts sep t = q :: ps := by
  by_cases hsep : sep ∈ s
  · obtain ⟨w, t, rfl, hw⟩ := List.eq_append_cons_of_mem hsep
    rw [parts_append hw] at h
    obtain ⟨rfl, ht⟩ := List.cons.inj h
    exact ⟨t, rfl, ht⟩
  · rw [parts_of_notMem hsep] at h
    cases h

theorem Column.Digits.dot_notMem (h : Digits w) : '.' ∉ w := by
  intro hmem
  have hdot := h.2 '.' hmem
  cases hdot

theorem isNumber_iff : isNumber w = true ↔ Number w := by
  unfold isNumber
  dsimp only
  constructor
  · intro h
    rcases hparts : parts '.' w with _ | ⟨a, _ | ⟨b, _ | _⟩⟩
    · simp [hparts] at h
    · have ha : Digits a := by simpa [hparts, isDigits_iff] using h
      exact Or.inl (eq_of_parts_singleton hparts ▸ ha)
    · have hab : Digits a ∧ Digits b := by simpa [hparts, isDigits_iff] using h
      obtain ⟨t, rfl, ht⟩ := exists_of_parts_cons hparts
      obtain rfl := eq_of_parts_singleton ht
      exact Or.inr ⟨a, t, hab.1, hab.2, rfl⟩
    · simp [hparts] at h
  · rintro (h | ⟨a, b, ha, hb, rfl⟩)
    · simp [parts_of_notMem h.dot_notMem, isDigits_iff.mpr h]
    · simp [parts_append ha.dot_notMem, parts_of_notMem hb.dot_notMem, isDigits_iff.mpr ha,
        isDigits_iff.mpr hb]

theorem isAddress_iff : isAddress w = true ↔ Address w := by
  unfold isAddress
  dsimp only
  constructor
  · intro h
    rcases hparts : parts '.' w with _ | ⟨a, _ | ⟨b, _ | ⟨c, _ | ⟨d, _ | _⟩⟩⟩⟩
    · simp [hparts] at h
    · simp [hparts] at h
    · simp [hparts] at h
    · simp [hparts] at h
    · have hall : Digits a ∧ Digits b ∧ Digits c ∧ Digits d := by
        simpa [hparts, isDigits_iff] using h
      obtain ⟨t, rfl, ht⟩ := exists_of_parts_cons hparts
      obtain ⟨u, rfl, hu⟩ := exists_of_parts_cons ht
      obtain ⟨v, rfl, hv⟩ := exists_of_parts_cons hu
      obtain rfl := eq_of_parts_singleton hv
      exact ⟨a, b, c, v, hall.1, hall.2.1, hall.2.2.1, hall.2.2.2, rfl⟩
    · simp [hparts] at h
  · rintro ⟨a, b, c, d, ha, hb, hc, hd, rfl⟩
    simp [parts_append ha.dot_notMem, parts_append hb.dot_notMem, parts_append hc.dot_notMem,
      parts_of_notMem hd.dot_notMem, isDigits_iff.mpr ha, isDigits_iff.mpr hb, isDigits_iff.mpr hc,
      isDigits_iff.mpr hd]

/-! ## Reading a column -/

/-- A column ends at a blank or at the end of the line. -/
def EndsColumn (s : List Char) : Prop := ∀ c ∈ s.head?, isBlank c = true

/-- One blank or more. -/
def IsGap (s : List Char) : Prop := s ≠ [] ∧ Blanks s

theorem IsGap.endsColumn (h : IsGap gap) (s : List Char) : EndsColumn (gap ++ s) := by
  obtain ⟨c, t, rfl⟩ := List.exists_cons_of_ne_nil h.1
  intro d hd
  obtain rfl : c = d := Option.some.inj hd
  exact h.2 c List.mem_cons_self

theorem column?_append {fits : List Char → Bool} (hfits : fits w = true) (hw : Visible w)
    (hrest : EndsColumn rest) : column? fits (w ++ rest) = some (w, rest) := by
  have hbare : ∀ c ∈ w, (!isBlank c) = true := by
    intro c hc
    rw [hw.isBlank hc]
    rfl
  have htake : rest.takeWhile (!isBlank ·) = [] ∧ rest.dropWhile (!isBlank ·) = rest := by
    cases rest with
    | nil => exact ⟨rfl, rfl⟩
    | cons c rest =>
      have hc : isBlank c = true := hrest c rfl
      simp [hc]
  unfold column?
  dsimp only
  rw [List.takeWhile_append_of_pos hbare, List.dropWhile_append_of_pos hbare, htake.1, htake.2,
    List.append_nil, if_pos hfits]

theorem column?_some {fits : List Char → Bool} (h : column? fits s = some (w, rest)) :
    fits w = true ∧ s = w ++ rest ∧ EndsColumn rest := by
  unfold column? at h
  dsimp only at h
  split at h
  · rename_i hfits
    cases h
    refine ⟨hfits, List.takeWhile_append_dropWhile.symm, ?_⟩
    intro c hc
    have hhead := List.head?_dropWhile_not (!isBlank ·) s
    rw [show (s.dropWhile (!isBlank ·)).head? = some c from hc] at hhead
    simpa using hhead
  · cases h

theorem gap?_append (hgap : IsGap gap) (hs : BeginsBare s) : gap? (gap ++ s) = some s := by
  obtain ⟨c, t, rfl⟩ := List.exists_cons_of_ne_nil hgap.1
  obtain ⟨hc, ht⟩ := List.forall_mem_cons.mp hgap.2
  rw [List.cons_append, gap?, if_pos hc, skipBlanks_append ht, skipBlanks_eq_self hs]

theorem gap?_some (h : gap? s = some t) : ∃ gap, IsGap gap ∧ BeginsBare t ∧ s = gap ++ t := by
  cases s with
  | nil => cases h
  | cons c s =>
    rw [gap?] at h
    split at h
    · rename_i hc
      cases h
      obtain ⟨w, hw, hs⟩ := exists_skipBlanks s
      refine ⟨c :: w, ⟨List.cons_ne_nil c w, List.forall_mem_cons.mpr ⟨hc, hw⟩⟩,
        beginsBare_skipBlanks s, ?_⟩
      rw [List.cons_append, ← hs]
    · cases h

theorem contains_sizeUnits : sizeUnits.contains w = true ↔ ∃ unit ∈ units, w = unit.toList := by
  rw [List.contains_iff_mem]
  show w ∈ units.map (·.toList) ↔ _
  rw [List.mem_map]
  exact exists_congr fun unit => and_congr_right fun _ => eq_comm

theorem visible_of_mem_units : ∀ unit ∈ units, Visible unit.toList := by
  decide

theorem load?_append (hw : Load w) (hrest : EndsColumn rest) :
    load? (w ++ rest) = some (w, rest) := by
  obtain ⟨number, hnumber, unit, hunit, rfl⟩ := hw
  have hspace : EndsColumn (' ' :: (unit.toList ++ rest)) := by
    rintro c ⟨⟩
    rfl
  have hcolumn := column?_append (isNumber_iff.mpr hnumber) hnumber.visible hspace
  have hunits := column?_append (contains_sizeUnits.mpr ⟨unit, hunit, rfl⟩)
    (visible_of_mem_units unit hunit) hrest
  simp [load?, hcolumn, hunits]

theorem load?_some (h : load? s = some (w, rest)) : Load w ∧ s = w ++ rest ∧ EndsColumn rest := by
  simp only [load?, Option.bind_eq_bind, Option.bind_eq_some_iff, Prod.exists] at h
  obtain ⟨number, t, hcolumn, h⟩ := h
  obtain ⟨hnumber, rfl, -⟩ := column?_some hcolumn
  split at h
  · rename_i u
    simp only [Option.bind_eq_some_iff, Prod.exists] at h
    obtain ⟨unit, v, hunits, h⟩ := h
    cases h
    obtain ⟨hunit, rfl, hrest⟩ := column?_some hunits
    obtain ⟨name, hname, rfl⟩ := contains_sizeUnits.mp hunit
    exact ⟨⟨number, isNumber_iff.mp hnumber, name, hname, rfl⟩, by simp, hrest⟩
  · cases h

/-! ## The rack -/

/-- After one blank or more there is this text, and then only blanks. -/
def HoldsRack (s rack : List Char) : Prop :=
  rack ≠ [] ∧ ∃ gap trail, IsGap gap ∧ Blanks trail ∧ s = gap ++ (rack ++ trail)

/--
The text that stands for the rack: all of it without the blanks around it. Where that leaves
nothing, the last blank of several is the rack.
-/
def IsRack (s rack : List Char) : Prop :=
  if trim s ≠ [] then rack = trim s else ∃ front c, front ≠ [] ∧ s = front ++ [c] ∧ rack = [c]

variable {rack : List Char}

theorem HoldsRack.endsColumn (h : HoldsRack s rack) : EndsColumn s := by
  obtain ⟨-, gap, trail, hgap, -, rfl⟩ := h
  exact hgap.endsColumn _

/-- A rack without blanks at its ends is the rack that is read. -/
theorem isRack_append (hgap : IsGap gap) (hne : rack ≠ []) (hrack : IsTrimmed rack)
    (hrest : Blanks rest) : IsRack (gap ++ (rack ++ rest)) rack := by
  have htrim : trim (gap ++ (rack ++ rest)) = rack := trim_append hgap.2 hrack hrest
  unfold IsRack
  rw [htrim, if_pos hne]

theorem rack?_of_blanks (hs : Blanks s) : rack? s = s.tail.getLast?.map fun c => [c] := by
  cases s with
  | nil => rfl
  | cons c t =>
    obtain ⟨hc, ht⟩ := List.forall_mem_cons.mp hs
    have hgap : gap? (c :: t) = some [] := by rw [gap?, if_pos hc, skipBlanks_eq_nil.mpr ht]
    cases hlast : t.getLast? <;> simp [rack?, hgap, hlast]

theorem rack?_of_not_blanks (hends : EndsColumn s) (hs : ¬ Blanks s) :
    rack? s = some (trim s) := by
  cases s with
  | nil => exact absurd nofun hs
  | cons c t =>
    have hc : isBlank c = true := hends c rfl
    have hskip : skipBlanks (c :: t) = skipBlanks t := by rw [skipBlanks_cons, if_pos hc]
    have hgap : gap? (c :: t) = some (skipBlanks (c :: t)) := by rw [gap?, if_pos hc, hskip]
    have hne : skipBlanks (c :: t) ≠ [] := fun hnil => hs (skipBlanks_eq_nil.mp hnil)
    simp [rack?, hgap, hne, trim]

theorem endsColumn_of_rack? (h : rack? s = some rack) : EndsColumn s := by
  intro c hc
  cases s with
  | nil => cases hc
  | cons d t =>
    obtain rfl : d = c := Option.some.inj hc
    by_contra hd
    have hgap : gap? (d :: t) = none := by rw [gap?, if_neg hd]
    simp [rack?, hgap] at h

/-- The rack that is read is a text behind blanks, and the one that stands for the rack. -/
theorem rack?_iff : rack? s = some rack ↔ HoldsRack s rack ∧ IsRack s rack := by
  by_cases hs : Blanks s
  · have htrim : trim s = [] := trim_eq_nil.mpr hs
    unfold IsRack
    rw [rack?_of_blanks hs, htrim, if_neg (not_not_intro rfl), Option.map_eq_some_iff]
    constructor
    · rintro ⟨c, hlast, rfl⟩
      cases s with
      | nil => cases hlast
      | cons b t =>
        obtain ⟨u, rfl⟩ := List.getLast?_eq_some_iff.mp hlast
        have hgap : IsGap (b :: u) := by
          refine ⟨List.cons_ne_nil b u, fun d hd => hs d ?_⟩
          exact List.mem_append_left [c] hd
        exact ⟨⟨List.cons_ne_nil c [], b :: u, [], hgap, nofun, rfl⟩, b :: u, c, hgap.1, rfl, rfl⟩
    · rintro ⟨-, front, c, hfront, rfl, rfl⟩
      obtain ⟨b, u, rfl⟩ := List.exists_cons_of_ne_nil hfront
      exact ⟨c, by simp, rfl⟩
  · have hne : trim s ≠ [] := fun hnil => hs (trim_eq_nil.mp hnil)
    unfold IsRack
    rw [if_pos hne]
    constructor
    · intro h
      have hends := endsColumn_of_rack? h
      rw [rack?_of_not_blanks hends hs] at h
      obtain rfl := Option.some.inj h
      obtain ⟨lead, trail, hlead, htrail, heq⟩ := exists_trim s
      refine ⟨⟨hne, lead, trail, ⟨?_, hlead⟩, htrail, heq⟩, rfl⟩
      -- The text begins with a blank and what is trimmed of it does not.
      rintro rfl
      obtain ⟨c, t, hcons⟩ := List.exists_cons_of_ne_nil hne
      have hbare : isBlank c = false := beginsBare_cons.mp (hcons ▸ (isTrimmed_trim s).1)
      have hblank : isBlank c = true := hends c (by rw [heq, hcons]; rfl)
      rw [hbare] at hblank
      cases hblank
    · rintro ⟨hholds, rfl⟩
      exact rack?_of_not_blanks hholds.endsColumn hs

/-- Wherever there is room for a rack, one is read. -/
theorem HoldsRack.exists_rack? (h : HoldsRack s rack) : ∃ r, rack? s = some r := by
  by_cases hs : Blanks s
  · obtain ⟨hne, gap, trail, hgap, -, rfl⟩ := h
    obtain ⟨b, u, rfl⟩ := List.exists_cons_of_ne_nil hgap.1
    have htail : u ++ (rack ++ trail) ≠ [] := by simp [hne]
    rw [rack?_of_blanks hs, List.cons_append, List.tail_cons, List.getLast?_eq_some_getLast htail]
    exact ⟨_, rfl⟩
  · exact ⟨trim s, rack?_of_not_blanks h.endsColumn hs⟩

end RingKeeper.Ring
