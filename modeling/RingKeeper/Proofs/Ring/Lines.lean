import Mathlib.Data.List.Basic
import RingKeeper.Proofs.Ring.Columns

/-!
# What a line of the ring table says

1. `IsHeader` and `IsRow` are the two forms of a line: a header with a name, and a row that is split
   into seven columns. A row may be split in several ways, which differ in the rack alone
   (`IsRow.heads_eq`); `Reads` is the one that counts.
2. `header?_iff` and `row?_iff` say that a line is read exactly so, and `exists_reads` that each row
   is.
3. `ofText_header`, `ofText_row` and `ofText_other` sort the lines.
-/

namespace RingKeeper

/-- The columns of a row, but the rack. -/
def Node.heads (n : Node) : List (List Char) :=
  [n.state.toList, n.address.toList, n.load.toList, n.tokens.toList, n.owns.toList,
    n.hostId.toList]

/-- Every column is written as it has to be; the rack is any text but the empty one. -/
structure Node.IsWellFormed (n : Node) : Prop where
  state : Ring.Column.State n.state.toList
  address : Ring.Column.Address n.address.toList
  load : Ring.Column.Load n.load.toList
  tokens : Ring.Column.Digits n.tokens.toList
  owns : Ring.Column.Ownership n.owns.toList
  hostId : Ring.Column.HostId n.hostId.toList
  rack : n.rack.toList ≠ []

namespace Ring

open Text Column

/-! ## The two forms of a line -/

/-- Columns one after the other with blanks between them, and then the rest. -/
inductive Spaced (rest : List Char) : List (List Char) → List Char → Prop where
  | last (w : List Char) : Spaced rest [w] (w ++ rest)
  | cons (w : List Char) {gap s : List Char} {ws : List (List Char)} (hgap : IsGap gap)
    (h : Spaced rest ws s) : Spaced rest (w :: ws) (w ++ (gap ++ s))

/-- The line is a header: the mark, and then something, which is the name when it is trimmed. -/
def IsHeader (line : List Char) (name : String) : Prop :=
  ∃ lead rest, Blanks lead ∧ rest ≠ [] ∧ line = lead ++ ("Datacenter: ".toList ++ rest) ∧
    name.toList = trim rest

/-- The columns of the node are one way to split the line. -/
def IsRow (line : List Char) (n : Node) : Prop :=
  n.IsWellFormed ∧ ∃ lead body trail, Blanks lead ∧ Blanks trail ∧ line = lead ++ body ∧
    Spaced trail (n.heads ++ [n.rack.toList]) body

/-- The split of the line that counts: what stands behind the other columns decides on the rack. -/
def Reads (line : List Char) (n : Node) : Prop :=
  n.IsWellFormed ∧ ∃ lead body rest, Blanks lead ∧ line = lead ++ body ∧
    Spaced rest n.heads body ∧ HoldsRack rest n.rack.toList ∧ IsRack rest n.rack.toList

variable {line lead body rest s : List Char} {name : String} {n m : Node}

/-! ## Headers -/

theorem header?_iff : header? line = some name ↔ IsHeader line name := by
  unfold header? IsHeader
  constructor
  · intro h
    split at h
    · rename_i c rest hmark
      cases h
      obtain ⟨lead, hlead, hline⟩ := exists_skipBlanks line
      rw [← List.isPrefixOf?_eq_some_iff_append_eq.mp hmark] at hline
      exact ⟨lead, c :: rest, hlead, List.cons_ne_nil c rest, hline, String.toList_ofList⟩
    · cases h
  · rintro ⟨lead, rest, hlead, hne, rfl, hname⟩
    obtain ⟨c, t, rfl⟩ := List.exists_cons_of_ne_nil hne
    have hbare : BeginsBare (headerMark ++ c :: t) := beginsBare_cons.mpr (by decide)
    have hmark : headerMark.isPrefixOf? (skipBlanks (lead ++ (headerMark ++ c :: t))) =
        some (c :: t) := by
      rw [skipBlanks_append hlead, skipBlanks_eq_self hbare]
      exact List.isPrefixOf?_eq_some_iff_append_eq.mpr rfl
    rw [show "Datacenter: ".toList = headerMark from rfl, hmark]
    dsimp only
    rw [← hname, String.ofList_toList]

/-! ## Rows -/

section Spaced
variable {w w' : List Char} {ws : List (List Char)}

theorem Spaced.eq_of_last (h : Spaced rest [w] s) : s = w ++ rest := by
  cases h with
  | last => rfl
  | cons _ _ h => cases h

theorem Spaced.exists_gap (h : Spaced rest (w :: w' :: ws) s) :
    ∃ gap t, IsGap gap ∧ s = w ++ (gap ++ t) ∧ Spaced rest (w' :: ws) t := by
  cases h with
  | cons _ hgap h => exact ⟨_, _, hgap, rfl, h⟩

theorem Spaced.exists_append (h : Spaced rest (w :: ws) s) : ∃ t, s = w ++ t := by
  cases h with
  | last => exact ⟨rest, rfl⟩
  | cons _ _ _ => exact ⟨_, rfl⟩

/-- The rest may begin with one more column. -/
theorem spaced_concat (hws : ws ≠ []) :
    Spaced rest (ws ++ [w]) s ↔ ∃ gap, IsGap gap ∧ Spaced (gap ++ (w ++ rest)) ws s := by
  induction ws generalizing s with
  | nil => exact absurd rfl hws
  | cons v ws ih =>
    cases ws with
    | nil =>
      constructor
      · intro h
        obtain ⟨gap, t, hgap, rfl, ht⟩ := h.exists_gap
        obtain rfl := ht.eq_of_last
        exact ⟨gap, hgap, .last v⟩
      · rintro ⟨gap, hgap, h⟩
        obtain rfl := h.eq_of_last
        exact .cons v hgap (.last w)
    | cons v' ws =>
      have ih := fun t => ih (s := t) (List.cons_ne_nil v' ws)
      constructor
      · intro h
        obtain ⟨gap, t, hgap, rfl, ht⟩ := h.exists_gap
        obtain ⟨gap', hgap', ht⟩ := (ih t).mp ht
        exact ⟨gap', hgap', .cons v hgap ht⟩
      · rintro ⟨gap', hgap', h⟩
        obtain ⟨gap, t, hgap, rfl, ht⟩ := h.exists_gap
        exact .cons v hgap ((ih t).mpr ⟨gap', hgap', ht⟩)

/-- A column is read where it is followed by a gap and another column. -/
theorem Spaced.step {take : List Char → Option (List Char × List Char)}
    (h : Spaced rest (w :: w' :: ws) s) (htake : ∀ t, EndsColumn t → take (w ++ t) = some (w, t))
    (hbare : ∀ t, BeginsBare (w' ++ t)) :
    ∃ t u, take s = some (w, t) ∧ gap? t = some u ∧ Spaced rest (w' :: ws) u := by
  obtain ⟨gap, u, hgap, rfl, hu⟩ := h.exists_gap
  obtain ⟨v, rfl⟩ := hu.exists_append
  exact ⟨gap ++ (w' ++ v), w' ++ v, htake _ (hgap.endsColumn _), gap?_append hgap (hbare v), hu⟩

end Spaced

/-- What the reader makes of a line whose columns but the rack are well formed. -/
theorem row?_of_spaced (hn : n.IsWellFormed) (hlead : Blanks lead) (h : Spaced rest n.heads body)
    (hrest : EndsColumn rest) :
    row? (lead ++ body) = (rack? rest).map fun rack => { n with rack := String.ofList rack } := by
  have hstate := hn.state.visible
  have haddress := hn.address.visible
  have htokens := hn.tokens.visible
  have howns := hn.owns.visible
  have hhost := hn.hostId.visible
  have hskip : skipBlanks (lead ++ body) = body := by
    obtain ⟨t, rfl⟩ := h.exists_append
    rw [skipBlanks_append hlead, skipBlanks_eq_self (hstate.beginsBare hn.state.ne_nil t)]
  obtain ⟨t₁, u₁, hcolumn₁, hgap₁, h⟩ := h.step
    (fun t => column?_append (isState_iff.mpr hn.state) hstate)
    (haddress.beginsBare hn.address.ne_nil)
  obtain ⟨t₂, u₂, hcolumn₂, hgap₂, h⟩ := h.step
    (fun t => column?_append (isAddress_iff.mpr hn.address) haddress) hn.load.beginsBare
  obtain ⟨t₃, u₃, hcolumn₃, hgap₃, h⟩ := h.step (fun t => load?_append hn.load)
    (htokens.beginsBare hn.tokens.1)
  obtain ⟨t₄, u₄, hcolumn₄, hgap₄, h⟩ := h.step
    (fun t => column?_append (isDigits_iff.mpr hn.tokens) htokens) (howns.beginsBare hn.owns.1)
  obtain ⟨t₅, u₅, hcolumn₅, hgap₅, h⟩ := h.step
    (fun t => column?_append (isOwnership_iff.mpr hn.owns) howns)
    (hhost.beginsBare hn.hostId.1)
  obtain rfl := h.eq_of_last
  have hcolumn₆ := column?_append (isHostId_iff.mpr hn.hostId) hhost hrest
  cases hrack : rack? rest <;>
    simp [row?, hskip, hcolumn₁, hgap₁, hcolumn₂, hgap₂, hcolumn₃, hgap₃, hcolumn₄, hgap₄,
      hcolumn₅, hgap₅, hcolumn₆, hrack]

theorem reads_of_row? (h : row? line = some n) : Reads line n := by
  simp only [row?, Option.bind_eq_bind, Option.bind_eq_some_iff, Prod.exists] at h
  obtain ⟨state, s₁, hcolumn₁, u₁, hgap₁, address, s₂, hcolumn₂, u₂, hgap₂, load, s₃, hcolumn₃,
    u₃, hgap₃, tokens, s₄, hcolumn₄, u₄, hgap₄, owns, s₅, hcolumn₅, u₅, hgap₅, hostId, s₆,
    hcolumn₆, rack, hrack, hnode⟩ := h
  obtain ⟨lead, hlead, hline⟩ := exists_skipBlanks line
  obtain ⟨hstate, hbody, -⟩ := column?_some hcolumn₁
  obtain ⟨gap₁, hblanks₁, -, rfl⟩ := gap?_some hgap₁
  obtain ⟨haddress, rfl, -⟩ := column?_some hcolumn₂
  obtain ⟨gap₂, hblanks₂, -, rfl⟩ := gap?_some hgap₂
  obtain ⟨hload, rfl, -⟩ := load?_some hcolumn₃
  obtain ⟨gap₃, hblanks₃, -, rfl⟩ := gap?_some hgap₃
  obtain ⟨htokens, rfl, -⟩ := column?_some hcolumn₄
  obtain ⟨gap₄, hblanks₄, -, rfl⟩ := gap?_some hgap₄
  obtain ⟨howns, rfl, -⟩ := column?_some hcolumn₅
  obtain ⟨gap₅, hblanks₅, -, rfl⟩ := gap?_some hgap₅
  obtain ⟨hhost, rfl, -⟩ := column?_some hcolumn₆
  obtain ⟨hholds, hisRack⟩ := rack?_iff.mp hrack
  cases hnode
  refine ⟨⟨?_, ?_, ?_, ?_, ?_, ?_, ?_⟩, lead, skipBlanks line, s₆, hlead, hline, ?_, ?_, ?_⟩
  · simpa using isState_iff.mp hstate
  · simpa using isAddress_iff.mp haddress
  · simpa using hload
  · simpa using isDigits_iff.mp htokens
  · simpa using isOwnership_iff.mp howns
  · simpa using isHostId_iff.mp hhost
  · simpa using hholds.1
  · rw [hbody]
    simp only [Node.heads, String.toList_ofList]
    exact .cons _ hblanks₁ (.cons _ hblanks₂ (.cons _ hblanks₃ (.cons _ hblanks₄
      (.cons _ hblanks₅ (.last _)))))
  · simpa using hholds
  · simpa using hisRack

theorem row?_iff : row? line = some n ↔ Reads line n := by
  constructor
  · exact reads_of_row?
  · rintro ⟨hn, lead, body, rest, hlead, rfl, hbody, hholds, hrack⟩
    rw [row?_of_spaced hn hlead hbody hholds.endsColumn, rack?_iff.mpr ⟨hholds, hrack⟩]
    simp

/-- A row is what is left of the columns in front of the rack, and room for the rack. -/
theorem isRow_iff : IsRow line n ↔
    n.IsWellFormed ∧ ∃ lead body rest, Blanks lead ∧ line = lead ++ body ∧
      Spaced rest n.heads body ∧ HoldsRack rest n.rack.toList := by
  have hheads : n.heads ≠ [] := List.cons_ne_nil _ _
  constructor
  · rintro ⟨hn, lead, body, trail, hlead, htrail, rfl, h⟩
    obtain ⟨gap, hgap, h⟩ := (spaced_concat hheads).mp h
    exact ⟨hn, lead, body, _, hlead, rfl, h, hn.rack, gap, trail, hgap, htrail, rfl⟩
  · rintro ⟨hn, lead, body, rest, hlead, rfl, h, -, gap, trail, hgap, htrail, rfl⟩
    exact ⟨hn, lead, body, trail, hlead, htrail, rfl, (spaced_concat hheads).mpr ⟨gap, hgap, h⟩⟩

theorem Reads.isRow (h : Reads line n) : IsRow line n := by
  obtain ⟨hn, lead, body, rest, hlead, hline, hbody, hholds, -⟩ := h
  exact isRow_iff.mpr ⟨hn, lead, body, rest, hlead, hline, hbody, hholds⟩

/-- Whatever way a row is split, it is read with the same columns, the rack apart. -/
theorem IsRow.exists_row? (h : IsRow line n) : ∃ rack, row? line = some { n with rack } := by
  obtain ⟨hn, lead, body, rest, hlead, rfl, hbody, hholds⟩ := isRow_iff.mp h
  obtain ⟨rack, hrack⟩ := hholds.exists_rack?
  refine ⟨String.ofList rack, ?_⟩
  rw [row?_of_spaced hn hlead hbody hholds.endsColumn, hrack]
  rfl

theorem exists_reads : (∃ n, Reads line n) ↔ ∃ n, IsRow line n := by
  constructor
  · rintro ⟨n, h⟩
    exact ⟨n, h.isRow⟩
  · rintro ⟨n, h⟩
    obtain ⟨rack, hrow⟩ := h.exists_row?
    exact ⟨_, row?_iff.mp hrow⟩

theorem IsRow.heads_eq (hn : IsRow line n) (hm : IsRow line m) : n.heads = m.heads := by
  obtain ⟨_, hrow⟩ := hn.exists_row?
  obtain ⟨_, hrow'⟩ := hm.exists_row?
  rw [hrow] at hrow'
  have hheads := congrArg Node.heads (Option.some.inj hrow')
  exact hheads

/-! ## Sorting the lines -/

theorem ofText_header : Line.ofText line = .header name ↔ IsHeader line name := by
  rw [← header?_iff]
  unfold Line.ofText
  cases header? line <;> cases row? line <;> simp

theorem ofText_row :
    Line.ofText line = .row n ↔ (¬ ∃ name, IsHeader line name) ∧ Reads line n := by
  simp only [← header?_iff, ← row?_iff]
  unfold Line.ofText
  cases header? line <;> cases row? line <;> simp

theorem ofText_other :
    Line.ofText line = .other ↔ (¬ ∃ name, IsHeader line name) ∧ ¬ ∃ n, IsRow line n := by
  simp only [← exists_reads, ← header?_iff, ← row?_iff]
  unfold Line.ofText
  cases header? line <;> cases row? line <;> simp

end Ring

end RingKeeper
