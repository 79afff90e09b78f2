import RingKeeper.Proofs.Ring.Lines

/-!
# The datacenters of a report

1. `IsTable` cuts the lines of a report at its headers: what stands before the first one belongs to
   no datacenter, and each header begins a block whose rows are its nodes. `exists_isTable` says
   that all lines can be cut so, and `IsTable.datacentersOf_eq` that they are read so.
2. `datacentersOf_filter` says that lines which are neither header nor row do not count.
3. `name_mem_iff` and `node_mem_iff` say which lines the datacenters and the nodes come from.
4. `report_iff_table` is what reading a report comes to.
-/

namespace RingKeeper.Ring

open Text

/-! ## Blocks -/

/-- The nodes are those of the rows among the lines, each once and in order. -/
inductive Rows : List (List Char) → List Node → Prop where
  | nil : Rows [] []
  | row {line : List Char} {ls : List (List Char)} {n : Node} {ns : List Node} (h : Reads line n)
    (hrest : Rows ls ns) : Rows (line :: ls) (n :: ns)
  | other {line : List Char} {ls : List (List Char)} {ns : List Node}
    (h : ¬ ∃ n, IsRow line n) (hrest : Rows ls ns) : Rows (line :: ls) ns

/-- A header and the lines that follow it. -/
structure Block where
  header : List Char
  body : List (List Char)

def Block.lines (b : Block) : List (List Char) := b.header :: b.body

/-- The block begins with the header of the datacenter, holds no other header, and has its nodes as
its rows. -/
structure Block.Describes (b : Block) (dc : Datacenter) : Prop where
  header : IsHeader b.header dc.name
  noHeader : ∀ line ∈ b.body, ¬ ∃ name, IsHeader line name
  rows : Rows b.body dc.nodes

/-- The lines are some without a header, and then a block for each datacenter. -/
def IsTable (ls : List (List Char)) (dcs : List Datacenter) : Prop :=
  ∃ before blocks, (∀ line ∈ before, ¬ ∃ name, IsHeader line name) ∧
    ls = before ++ blocks.flatMap Block.lines ∧ List.Forall₂ Block.Describes blocks dcs

variable {ls before mid after : List (List Char)} {ns : List Node} {dcs : List Datacenter}
  {blocks : List Block}

/-! ## Every report is a table -/

theorem exists_rows (ls : List (List Char)) : ∃ ns, Rows ls ns := by
  induction ls with
  | nil => exact ⟨[], .nil⟩
  | cons line ls ih =>
    obtain ⟨ns, hns⟩ := ih
    by_cases h : ∃ n, IsRow line n
    · obtain ⟨n, hn⟩ := exists_reads.mpr h
      exact ⟨n :: ns, .row hn hns⟩
    · exact ⟨ns, .other h hns⟩

theorem exists_isTable (ls : List (List Char)) : ∃ dcs, IsTable ls dcs := by
  induction ls with
  | nil => exact ⟨[], [], [], nofun, rfl, .nil⟩
  | cons line ls ih =>
    obtain ⟨dcs, before, blocks, hbefore, rfl, hblocks⟩ := ih
    by_cases h : ∃ name, IsHeader line name
    · -- What stood before the first header belongs to this one.
      obtain ⟨name, hname⟩ := h
      obtain ⟨ns, hns⟩ := exists_rows before
      exact ⟨⟨name, ns⟩ :: dcs, [], ⟨line, before⟩ :: blocks, nofun, rfl,
        .cons ⟨hname, hbefore, hns⟩ hblocks⟩
    · exact ⟨dcs, line :: before, blocks, List.forall_mem_cons.mpr ⟨h, hbefore⟩, rfl, hblocks⟩

/-! ## A table is read as it is cut -/

theorem ofText_ne_header {line : List Char} (h : ¬ ∃ name, IsHeader line name) (name : String) :
    Line.ofText line ≠ .header name := fun hline => h ⟨name, ofText_header.mp hline⟩

theorem datacentersOf_append (h : ∀ line ∈ before, ¬ ∃ name, IsHeader line name)
    (ls : List (List Char)) :
    datacentersOf ((before ++ ls).map Line.ofText) = datacentersOf (ls.map Line.ofText) := by
  induction before with
  | nil => rfl
  | cons line before ih =>
    obtain ⟨hline, hbefore⟩ := List.forall_mem_cons.mp h
    rw [List.cons_append, List.map_cons]
    cases hread : Line.ofText line with
    | header name => exact absurd hread (ofText_ne_header hline name)
    | row n => exact ih hbefore
    | other => exact ih hbefore

theorem rowsHere_append (h : ∀ line ∈ before, ¬ ∃ name, IsHeader line name)
    (hrows : Rows before ns) (ls : List (List Char)) :
    rowsHere ((before ++ ls).map Line.ofText) = ns ++ rowsHere (ls.map Line.ofText) := by
  induction hrows with
  | nil => rfl
  | row hread _ ih =>
    obtain ⟨hline, hrest⟩ := List.forall_mem_cons.mp h
    rw [List.cons_append, List.map_cons, ofText_row.mpr ⟨hline, hread⟩, rowsHere, ih hrest]
    rfl
  | other hother _ ih =>
    obtain ⟨hline, hrest⟩ := List.forall_mem_cons.mp h
    rw [List.cons_append, List.map_cons, ofText_other.mpr ⟨hline, hother⟩, rowsHere, ih hrest]

/-- A block ends where the next one begins. -/
theorem rowsHere_blocks (h : List.Forall₂ Block.Describes blocks dcs) :
    rowsHere ((blocks.flatMap Block.lines).map Line.ofText) = [] := by
  cases h with
  | nil => rfl
  | cons hblock _ =>
    rw [List.flatMap_cons, Block.lines, List.cons_append, List.map_cons,
      ofText_header.mpr hblock.header]
    rfl

theorem datacentersOf_blocks (h : List.Forall₂ Block.Describes blocks dcs) :
    datacentersOf ((blocks.flatMap Block.lines).map Line.ofText) = dcs := by
  induction h with
  | nil => rfl
  | @cons b dc blocks dcs hblock hblocks ih =>
    rw [List.flatMap_cons, Block.lines, List.cons_append, List.map_cons,
      ofText_header.mpr hblock.header, datacentersOf,
      rowsHere_append hblock.noHeader hblock.rows, rowsHere_blocks hblocks,
      datacentersOf_append hblock.noHeader, ih, List.append_nil]

theorem IsTable.datacentersOf_eq (h : IsTable ls dcs) :
    datacentersOf (ls.map Line.ofText) = dcs := by
  obtain ⟨before, blocks, hbefore, rfl, hblocks⟩ := h
  rw [datacentersOf_append hbefore, datacentersOf_blocks hblocks]

theorem datacentersOf_iff : datacentersOf (ls.map Line.ofText) = dcs ↔ IsTable ls dcs := by
  constructor
  · rintro rfl
    obtain ⟨dcs, h⟩ := exists_isTable ls
    rw [h.datacentersOf_eq]
    exact h
  · exact IsTable.datacentersOf_eq

/-! ## What does not count -/

/-- Whether the line is a header or a row. -/
def Line.counts : Line → Bool
  | header _ => true
  | row _ => true
  | other => false

theorem rowsHere_filter (ls : List Line) : rowsHere (ls.filter Line.counts) = rowsHere ls := by
  induction ls with
  | nil => rfl
  | cons l ls ih => cases l <;> simp [List.filter_cons, Line.counts, rowsHere, ih]

theorem datacentersOf_filter (ls : List Line) :
    datacentersOf (ls.filter Line.counts) = datacentersOf ls := by
  induction ls with
  | nil => rfl
  | cons l ls ih =>
    cases l <;> simp [List.filter_cons, Line.counts, datacentersOf, rowsHere_filter, ih]

theorem datacentersOf_skip (hmid : ∀ line ∈ mid, ¬ ∃ name, IsHeader line name)
    (h : (∀ line ∈ mid, ¬ ∃ n, IsRow line n) ∨ ∀ line ∈ before, ¬ ∃ name, IsHeader line name) :
    datacentersOf ((before ++ (mid ++ after)).map Line.ofText) =
      datacentersOf ((before ++ after).map Line.ofText) := by
  rcases h with hrows | hbefore
  · have hother : (mid.map Line.ofText).filter Line.counts = [] := by
      rw [List.filter_eq_nil_iff]
      intro l hl
      obtain ⟨line, hline, rfl⟩ := List.mem_map.mp hl
      simp [Line.counts, ofText_other.mpr ⟨hmid line hline, hrows line hline⟩]
    rw [← datacentersOf_filter, ← datacentersOf_filter ((before ++ after).map Line.ofText)]
    simp only [List.map_append, List.filter_append, hother, List.nil_append]
  · rw [datacentersOf_append hbefore, datacentersOf_append hmid, datacentersOf_append hbefore]

/-! ## Where names and nodes come from -/

section
variable {ls : List Line} {name : String} {n : Node} {report : String}

theorem header_mem_iff : .header name ∈ ls ↔ ∃ dc ∈ datacentersOf ls, dc.name = name := by
  induction ls with
  | nil => simp [datacentersOf]
  | cons l ls ih => cases l <;> simp [datacentersOf, ih, eq_comm]

/-- Each row is one of a datacenter, or of those before the next header. -/
theorem row_mem_iff : .row n ∈ ls ↔
    n ∈ rowsHere ls ∨ ∃ dc ∈ datacentersOf ls, n ∈ dc.nodes := by
  induction ls with
  | nil => simp [datacentersOf, rowsHere]
  | cons l ls ih => cases l <;> simp [datacentersOf, rowsHere, ih, or_assoc]

/-- The rows of datacenters are those behind a header. -/
theorem row_mem_iff_split : (∃ dc ∈ datacentersOf ls, n ∈ dc.nodes) ↔
    ∃ before after, ls = before ++ .row n :: after ∧ ∃ name, .header name ∈ before := by
  induction ls with
  | nil => simp [datacentersOf]
  | cons l ls ih =>
    by_cases hl : ∃ name, l = .header name
    · obtain ⟨name, rfl⟩ := hl
      have hhere : (∃ dc ∈ datacentersOf (.header name :: ls), n ∈ dc.nodes) ↔ .row n ∈ ls := by
        rw [row_mem_iff]
        simp [datacentersOf]
      rw [hhere]
      constructor
      · intro hmem
        obtain ⟨before, after, rfl⟩ := List.append_of_mem hmem
        exact ⟨.header name :: before, after, rfl, name, List.mem_cons_self⟩
      · rintro ⟨before, after, hsplit, name', hheader⟩
        obtain ⟨l, before, rfl⟩ := List.exists_cons_of_ne_nil (List.ne_nil_of_mem hheader)
        rw [(List.cons.inj hsplit).2]
        exact List.mem_append_right before List.mem_cons_self
    · have hskip : datacentersOf (l :: ls) = datacentersOf ls := by
        cases l with
        | header name => exact absurd ⟨name, rfl⟩ hl
        | row m => rfl
        | other => rfl
      rw [hskip, ih]
      constructor
      · rintro ⟨before, after, rfl, name, hheader⟩
        exact ⟨l :: before, after, rfl, name, List.mem_cons_of_mem l hheader⟩
      · rintro ⟨before, after, hsplit, name, hheader⟩
        obtain ⟨l', before, rfl⟩ := List.exists_cons_of_ne_nil (List.ne_nil_of_mem hheader)
        obtain ⟨rfl, rfl⟩ := List.cons.inj hsplit
        rcases List.mem_cons.mp hheader with rfl | hheader
        · exact absurd ⟨name, rfl⟩ hl
        · exact ⟨before, after, rfl, name, hheader⟩

theorem name_mem_iff : (∃ dc ∈ (ofText report).datacenters, dc.name = name) ↔
    ∃ line ∈ lines report.toList, IsHeader line name := by
  show (∃ dc ∈ datacentersOf ((lines report.toList).map Line.ofText), dc.name = name) ↔ _
  rw [← header_mem_iff, List.mem_map]
  simp only [ofText_header]

theorem node_mem_iff : (∃ dc ∈ (ofText report).datacenters, n ∈ dc.nodes) ↔
    ∃ before line after, lines report.toList = before ++ line :: after ∧
      (∃ header ∈ before, ∃ name, IsHeader header name) ∧ Line.ofText line = .row n := by
  show (∃ dc ∈ datacentersOf ((lines report.toList).map Line.ofText), n ∈ dc.nodes) ↔ _
  rw [row_mem_iff_split]
  constructor
  · rintro ⟨before', after', hsplit, name, hheader⟩
    obtain ⟨before, rest, hlines, rfl, hrest⟩ := List.map_eq_append_iff.mp hsplit
    obtain ⟨line, after, rfl, hline, -⟩ := List.map_eq_cons_iff.mp hrest
    obtain ⟨header, hmem, hread⟩ := List.mem_map.mp hheader
    exact ⟨before, line, after, hlines, ⟨header, hmem, name, ofText_header.mp hread⟩, hline⟩
  · rintro ⟨before, line, after, hlines, ⟨header, hmem, name, hheader⟩, hline⟩
    refine ⟨before.map Line.ofText, after.map Line.ofText, ?_, name, ?_⟩
    · rw [hlines, List.map_append, List.map_cons, hline]
    · exact List.mem_map.mpr ⟨header, hmem, ofText_header.mpr hheader⟩

end

/-! ## Reports -/

/-- A row is split in one way up to the rack, and its rack is what stands behind the other columns
without the blanks around it, if that is anything. -/
theorem Reads.rack_eq {line lead body rest : List Char} {n : Node} (h : Reads line n)
    (hlead : Blanks lead) (hline : line = lead ++ body) (hbody : Spaced rest n.heads body)
    (hrest : EndsColumn rest) (hne : trim rest ≠ []) : n.rack.toList = trim rest := by
  have hrow := row?_of_spaced h.1 hlead hbody hrest
  rw [← hline, row?_iff.mpr h] at hrow
  obtain ⟨rack, hrack, hn⟩ := Option.map_eq_some_iff.mp hrow.symm
  have hrule := (rack?_iff.mp hrack).2
  unfold IsRack at hrule
  rw [if_pos hne] at hrule
  rw [← hn, String.toList_ofList, hrule]

/--
**A report is read exactly as its lines can be cut.**

1. The datacenters are those of a table: one for each header, with the trimmed name, and with the
   rows up to the next header as its nodes.
2. A line that can be split into columns is read; all its splits have the same columns but for the
   rack, and the rack is the rest of the line, trimmed, unless that is blank.
3. Lines that are neither header nor row do not count, and neither do those before the first header.
-/
theorem report_iff_table (report : String) :
    (∀ dcs, ofText report = ⟨dcs⟩ ↔ IsTable (lines report.toList) dcs) ∧
    (∀ line, (∃ n, Reads line n) ↔ ∃ n, IsRow line n) ∧
    (∀ line n m, Reads line n → IsRow line m → n.heads = m.heads) ∧
    (∀ line lead body rest n, Reads line n → Blanks lead → line = lead ++ body →
      Spaced rest n.heads body → EndsColumn rest → trim rest ≠ [] → n.rack.toList = trim rest) ∧
    ∀ (report' : String) (before mid after : List (List Char)),
      lines report.toList = before ++ (mid ++ after) → lines report'.toList = before ++ after →
      (∀ line ∈ mid, ¬ ∃ name, IsHeader line name) →
      ((∀ line ∈ mid, ¬ ∃ n, IsRow line n) ∨ ∀ line ∈ before, ¬ ∃ name, IsHeader line name) →
      ofText report' = ofText report := by
  refine ⟨fun dcs => ?_, fun line => exists_reads, fun line n m hn hm => hn.isRow.heads_eq hm,
    fun line lead body rest n h => h.rack_eq, ?_⟩
  · rw [← datacentersOf_iff]
    exact ⟨fun h => congrArg Ring.datacenters h, fun h => congrArg Ring.mk h⟩
  · intro report' before mid after hreport hreport' hmid h
    unfold ofText
    rw [hreport, hreport', datacentersOf_skip hmid h]

theorem report_iff_table_early :
    IsTable (lines "DN 0.0.0.9 1 B 8 ? f r1\nDatacenter: dc\n--\nUN 0.0.0.1 9 MiB 8 ? a r 1\n".toList)
      [⟨"dc", [⟨"UN", "0.0.0.1", "9 MiB", "8", "?", "a", "r 1"⟩]⟩] :=
  ((report_iff_table _).1 _).mp (by decide)

end RingKeeper.Ring
