import RingKeeper.Proofs.Ring.Printing

/-!
# Incomplete lines

A header without a name and a row without a rack are no lines of the table, but with blanks at their
end they are read: the header with an empty name, and the row with a blank for its rack.

1. `IsNameless` and `IsRackless` are these lines. `isNameless_iff` and `Reads.rack_cases` say what is
   read of them.
2. `isClean_iff` says that all names and columns are there, without blanks around them, exactly if
   the report has no such lines.
3. `reads_clean_iff` is what reading incomplete lines comes to.
-/

namespace RingKeeper.Ring

open Text Column

/-! ## What is there -/

/-- Some text, without blanks at its ends. -/
def CleanText (w : List Char) : Prop := w ≠ [] ∧ IsTrimmed w

instance (w : List Char) : Decidable (CleanText w) :=
  inferInstanceAs (Decidable (w ≠ [] ∧ IsTrimmed w))

/-- Every name and every column is some text, without blanks at its ends. -/
def IsClean (r : Ring) : Prop :=
  ∀ dc ∈ r.datacenters, CleanText dc.name.toList ∧
    ∀ n ∈ dc.nodes, ∀ column ∈ n.heads ++ [n.rack.toList], CleanText column

/-- A header with nothing but blanks behind the mark. -/
def IsNameless (line : List Char) : Prop :=
  ∃ lead gap, Blanks lead ∧ IsGap gap ∧ line = lead ++ ("Datacenter: ".toList ++ gap)

/-- The columns of the node but the rack, and then only these blanks. -/
def IsCutOff (line : List Char) (n : Node) (gap : List Char) : Prop :=
  n.IsWellFormed ∧ Blanks gap ∧ ∃ lead body, Blanks lead ∧ line = lead ++ body ∧
    Spaced gap n.heads body

/-- A row that ends before the rack, with two blanks or more at its end. -/
def IsRackless (line : List Char) : Prop := ∃ n gap, IsCutOff line n gap ∧ 2 ≤ gap.length

variable {line w gap : List Char} {name : String} {n m : Node} {c : Char}

/-! ## Columns are clean -/

theorem Column.Visible.cleanText (h : Visible w) (hne : w ≠ []) : CleanText w := by
  have hbare {v : List Char} (hv : Visible v) : BeginsBare v := by
    intro c hc
    exact hv.isBlank (List.mem_of_mem_head? hc)
  exact ⟨hne, hbare h, hbare fun c hc => h c (List.mem_reverse.mp hc)⟩

theorem Column.Load.cleanText (h : Load w) : CleanText w := by
  obtain ⟨number, hnumber, unit, hunit, rfl⟩ := id h
  have hclean : ∀ unit ∈ units, CleanText unit.toList := by decide
  obtain ⟨hne, -, hends⟩ := hclean unit hunit
  refine ⟨List.append_ne_nil_of_left_ne_nil hnumber.ne_nil _, ?_, ?_⟩
  · simpa using h.beginsBare []
  · obtain ⟨c, v, hunit⟩ := List.exists_cons_of_ne_nil (List.reverse_ne_nil_iff.mpr hne)
    rw [hunit] at hends
    simpa [hunit] using hends

theorem heads_clean (h : n.IsWellFormed) : ∀ column ∈ n.heads, CleanText column := by
  intro column hcolumn
  simp only [Node.heads, List.mem_cons, List.not_mem_nil, or_false] at hcolumn
  rcases hcolumn with rfl | rfl | rfl | rfl | rfl | rfl
  · exact h.state.visible.cleanText h.state.ne_nil
  · exact h.address.visible.cleanText h.address.ne_nil
  · exact h.load.cleanText
  · exact h.tokens.visible.cleanText h.tokens.1
  · exact h.owns.visible.cleanText h.owns.1
  · exact h.hostId.visible.cleanText h.hostId.1

/-! ## What is read of incomplete lines -/

theorem IsHeader.isTrimmed (h : IsHeader line name) : IsTrimmed name.toList := by
  obtain ⟨lead, rest, -, -, -, hname⟩ := h
  rw [hname]
  exact isTrimmed_trim rest

/-- A header without a name is read with the empty one. -/
theorem isNameless_iff : IsNameless line ↔ IsHeader line "" := by
  constructor
  · rintro ⟨lead, gap, hlead, hgap, rfl⟩
    exact ⟨lead, gap, hlead, hgap.1, rfl, (trim_eq_nil.mpr hgap.2).symm⟩
  · rintro ⟨lead, rest, hlead, hne, rfl, hname⟩
    exact ⟨lead, rest, hlead, ⟨hne, trim_eq_nil.mp hname.symm⟩, rfl⟩

theorem IsCutOff.row?_eq (h : IsCutOff line n gap) :
    row? line = gap.tail.getLast?.map fun c => { n with rack := String.ofList [c] } := by
  obtain ⟨hn, hgap, lead, body, hlead, rfl, hbody⟩ := h
  have hends : EndsColumn gap := fun c hc => hgap c (List.mem_of_mem_head? hc)
  rw [row?_of_spaced hn hlead hbody hends, rack?_of_blanks hgap, Option.map_map]
  rfl

theorem IsCutOff.not_isHeader (h : IsCutOff line n gap) : ¬ ∃ name, IsHeader line name := by
  obtain ⟨hn, -, lead, body, hlead, rfl, hbody⟩ := h
  exact fun ⟨name, hheader⟩ => hbody.not_isHeader hlead hn.state hheader

/-- Nothing is read of a row that ends before the rack, unless there are two blanks at its end. -/
theorem IsCutOff.other_iff (h : IsCutOff line n gap) :
    Line.ofText line = .other ↔ gap.length < 2 := by
  have hrow : (¬ ∃ m, IsRow line m) ↔ gap.tail = [] := by
    rw [← exists_reads]
    simp only [← row?_iff, h.row?_eq]
    cases hlast : gap.tail.getLast? with
    | none => exact iff_of_true (fun ⟨m, hm⟩ => nomatch hm) (List.getLast?_eq_none_iff.mp hlast)
    | some c =>
      refine iff_of_false (not_not_intro ⟨_, rfl⟩) fun hnil => ?_
      rw [hnil] at hlast
      cases hlast
  rw [ofText_other, and_iff_right h.not_isHeader, hrow, ← List.length_eq_zero_iff,
    List.length_tail]
  omega

/-- Two blanks behind the other columns are read as a gap and a rack. -/
theorem IsRackless.exists_row (h : IsRackless line) :
    ∃ n c, Line.ofText line = .row n ∧ isBlank c = true ∧ n.rack.toList = [c] := by
  obtain ⟨n, gap, hcut, hlength⟩ := h
  have htail : gap.tail ≠ [] := by
    rw [← List.length_pos_iff, List.length_tail]
    omega
  have hrow := hcut.row?_eq
  rw [List.getLast?_eq_some_getLast htail, Option.map_some] at hrow
  refine ⟨_, gap.tail.getLast htail, ofText_row.mpr ⟨hcut.not_isHeader, row?_iff.mp hrow⟩, ?_, ?_⟩
  · exact hcut.2.1 _ (List.mem_of_mem_tail (List.getLast_mem htail))
  · exact String.toList_ofList

/-- The rack has no blanks at its ends, but that it is a blank itself where nothing else is left. -/
theorem Reads.rack_cases (h : Reads line n) :
    CleanText n.rack.toList ∧ ¬ IsRackless line ∨
      (∃ c, isBlank c = true ∧ n.rack.toList = [c]) ∧ IsRackless line := by
  obtain ⟨hn, lead, body, rest, hlead, hline, hbody, hholds, hrack⟩ := id h
  unfold IsRack at hrack
  split at hrack
  · rename_i hne
    have hclean : CleanText n.rack.toList := ⟨hn.rack, hrack ▸ isTrimmed_trim rest⟩
    refine Or.inl ⟨hclean, fun hrackless => ?_⟩
    obtain ⟨m, c, hread, hc, hblank⟩ := hrackless.exists_row
    have hrow := row?_iff.mpr (ofText_row.mp hread).2
    rw [row?_iff.mpr h] at hrow
    obtain rfl := Option.some.inj hrow
    have hbare := hclean.2.1
    rw [hblank, beginsBare_cons, hc] at hbare
    cases hbare
  · rename_i hnil
    have hblanks : Blanks rest := trim_eq_nil.mp (not_not.mp hnil)
    obtain ⟨front, c, hfront, rfl, hlast⟩ := hrack
    have hlength : 2 ≤ (front ++ [c]).length := by
      have hpos := List.length_pos_iff.mpr hfront
      simp
      omega
    exact Or.inr ⟨⟨c, hblanks c (by simp), hlast⟩,
      n, _, ⟨hn, hblanks, lead, body, hlead, hline, hbody⟩, hlength⟩

/-! ## Clean reports -/

variable {report : String}

theorem isClean_iff : (ofText report).IsClean ↔
    ∀ before line after, lines report.toList = before ++ line :: after →
      ¬ IsNameless line ∧
        ((∃ header ∈ before, ∃ name, IsHeader header name) → ¬ IsRackless line) := by
  constructor
  · intro hclean before line after hlines
    refine ⟨fun hnameless => ?_, fun hbefore hrackless => ?_⟩
    · have hmem : line ∈ lines report.toList := hlines ▸ by simp
      obtain ⟨dc, hdc, hname⟩ := name_mem_iff.mpr ⟨line, hmem, isNameless_iff.mp hnameless⟩
      exact (hclean dc hdc).1.1 (by rw [hname]; rfl)
    · obtain ⟨n, c, hline, hc, hrack⟩ := hrackless.exists_row
      obtain ⟨dc, hdc, hn⟩ := node_mem_iff.mpr ⟨before, line, after, hlines, hbefore, hline⟩
      have hbare := ((hclean dc hdc).2 n hn n.rack.toList (by simp)).2.1
      rw [hrack, beginsBare_cons, hc] at hbare
      cases hbare
  · intro hlines dc hdc
    constructor
    · obtain ⟨line, hline, hheader⟩ := name_mem_iff.mp ⟨dc, hdc, rfl⟩
      refine ⟨fun hempty => ?_, hheader.isTrimmed⟩
      obtain ⟨before, after, hsplit⟩ := List.append_of_mem hline
      rw [String.toList_eq_nil_iff.mp hempty] at hheader
      exact (hlines before line after hsplit).1 (isNameless_iff.mpr hheader)
    · intro n hn column hcolumn
      obtain ⟨before, line, after, hsplit, hbefore, hline⟩ := node_mem_iff.mp ⟨dc, hdc, hn⟩
      have hreads := (ofText_row.mp hline).2
      rcases List.mem_append.mp hcolumn with hcolumn | hcolumn
      · exact heads_clean hreads.1 column hcolumn
      · rw [List.mem_singleton.mp hcolumn]
        rcases hreads.rack_cases with ⟨hclean, -⟩ | ⟨-, hrackless⟩
        · exact hclean
        · exact absurd hrackless ((hlines before line after hsplit).2 hbefore)

/-- Blanks behind the mark are read as a name, but for the space that belongs to it. -/
theorem other_iff_of_mark {lead : List Char} (hlead : Blanks lead) (hgap : Blanks gap) :
    Line.ofText (lead ++ ("Datacenter:".toList ++ gap)) = .other ↔
      ¬ ∃ name, name ≠ [] ∧ gap = ' ' :: name := by
  have hrow : ¬ ∃ n, IsRow (lead ++ ("Datacenter:".toList ++ gap)) n := by
    rintro ⟨n, hn, lead', body, trail, hlead', -, hline, hbody⟩
    exact hbody.ne_mark hlead' hn.state hlead hline.symm
  rw [ofText_other, and_iff_left hrow]
  refine not_congr ⟨?_, ?_⟩
  · rintro ⟨name, lead', rest, hlead', hne, hline, -⟩
    have hbare (s : List Char) : BeginsBare ("Datacenter:".toList ++ s) :=
      beginsBare_cons.mpr (by decide)
    have hmark : lead ++ ("Datacenter:".toList ++ gap) =
        lead' ++ ("Datacenter:".toList ++ ' ' :: rest) := hline
    have hskip := congrArg skipBlanks hmark
    rw [skipBlanks_append hlead, skipBlanks_append hlead', skipBlanks_eq_self (hbare _),
      skipBlanks_eq_self (hbare _)] at hskip
    exact ⟨rest, hne, List.append_cancel_left hskip⟩
  · rintro ⟨name, hne, rfl⟩
    have hname : IsGap name := ⟨hne, (List.forall_mem_cons.mp hgap).2⟩
    exact ⟨"", isNameless_iff.mp ⟨lead, name, hlead, hname, rfl⟩⟩

/--
**What is read of incomplete lines.**

1. All names and columns of a report are some text without blanks at its ends, exactly if it has no
   header with nothing but blanks for its name, and behind the first header no row with two blanks or
   more in place of its rack.
2. In any case names are trimmed, all columns but the rack are some text without blanks at its ends,
   and so is the rack, or else it is a blank.
3. Of a row that ends before the rack nothing is read unless two blanks follow, and of a header
   without a name nothing unless the space of its mark and another blank do.
-/
theorem reads_clean_iff (report : String) :
    ((ofText report).IsClean ↔ ∀ before line after,
      lines report.toList = before ++ line :: after → ¬ IsNameless line ∧
        ((∃ header ∈ before, ∃ name, IsHeader header name) → ¬ IsRackless line)) ∧
    (∀ dc ∈ (ofText report).datacenters, IsTrimmed dc.name.toList ∧
      ∀ n ∈ dc.nodes, (∀ column ∈ n.heads, CleanText column) ∧
        (CleanText n.rack.toList ∨ ∃ c, isBlank c = true ∧ n.rack.toList = [c])) ∧
    (∀ line n gap, IsCutOff line n gap → (Line.ofText line = .other ↔ gap.length < 2)) ∧
    ∀ lead gap, Blanks lead → Blanks gap →
      (Line.ofText (lead ++ ("Datacenter:".toList ++ gap)) = .other ↔
        ¬ ∃ name, name ≠ [] ∧ gap = ' ' :: name) := by
  refine ⟨isClean_iff, fun dc hdc => ⟨?_, fun n hn => ?_⟩, fun line n gap h => h.other_iff,
    fun lead gap => other_iff_of_mark⟩
  · obtain ⟨line, -, hheader⟩ := name_mem_iff.mp ⟨dc, hdc, rfl⟩
    exact hheader.isTrimmed
  · obtain ⟨before, line, after, -, -, hline⟩ := node_mem_iff.mp ⟨dc, hdc, hn⟩
    have hreads := (ofText_row.mp hline).2
    exact ⟨heads_clean hreads.1, hreads.rack_cases.imp And.left And.left⟩

/-- Behind one blank the row is cut off, and nothing is read of it. -/
theorem reads_clean_iff_short :
    (∃ n, IsCutOff "UN 10.0.0.1 1 KiB 256 ? a ".toList n [' ']) ∧
      Line.ofText "UN 10.0.0.1 1 KiB 256 ? a ".toList = .other := by
  have hwhole : Line.ofText "UN 10.0.0.1 1 KiB 256 ? a r".toList =
      .row ⟨"UN", "10.0.0.1", "1 KiB", "256", "?", "a", "r"⟩ := by decide
  obtain ⟨-, hn, -⟩ := ofText_row.mp hwhole
  have hblank : Blanks [' '] := by decide
  have hgap : IsGap [' '] := ⟨List.cons_ne_nil ' ' [], hblank⟩
  have hcut : IsCutOff "UN 10.0.0.1 1 KiB 256 ? a ".toList _ [' '] :=
    ⟨hn, hblank, [], _, nofun, by decide, .cons _ hgap (.cons _ hgap (.cons _ hgap
      (.cons _ hgap (.cons _ hgap (.last _)))))⟩
  exact ⟨⟨_, hcut⟩, ((reads_clean_iff "").2.2.1 _ _ _ hcut).mpr (by decide)⟩

/-- A row that is cut off before its rack, and a header that is cut off before its name, both with
blanks behind them. -/
def paddedReport : String :=
  "Datacenter: dc1\nUN  10.0.0.1  1 KiB  256  66.7%  a444a8b8  \nDatacenter:   \n"

theorem reads_blank_rack : ¬ (ofText paddedReport).IsClean := by
  intro hclean
  have hread : ofText paddedReport = ⟨[⟨"dc1",
      [⟨"UN", "10.0.0.1", "1 KiB", "256", "66.7%", "a444a8b8", " "⟩]⟩, ⟨"", []⟩]⟩ := by
    decide +kernel
  rw [hread] at hclean
  have hrack := (hclean _ List.mem_cons_self).2 _ List.mem_cons_self " ".toList (by simp)
  revert hrack
  decide

end RingKeeper.Ring
