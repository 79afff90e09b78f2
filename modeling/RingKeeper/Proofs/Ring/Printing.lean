import RingKeeper.Proofs.Ring.Table

/-!
# Reading undoes printing

1. `Line.Written` is what a line may look like: blanks around it and wider gaps do not matter, and
   any text that is neither header nor row may stand between the lines of the table.
2. A line that ends with a line feed alone loses a carriage return it has before that.
   `Line.Written.of_return` says that the return was a blank of the layout.
3. `ofText_printed`: whatever layout a ring is printed with, it is read back.
-/

namespace RingKeeper

namespace Ring

open Text

/-! ## Layouts -/

namespace Line

/-- The text is one layout of the line. -/
inductive Written : Line → List Char → Prop where
  | header {name : String} {lead trail : List Char} (hlead : Blanks lead) (htrail : Blanks trail) :
    Written (.header name) (lead ++ ("Datacenter: ".toList ++ (name.toList ++ trail)))
  | row {n : Node} {lead body trail : List Char} (hlead : Blanks lead) (htrail : Blanks trail)
    (hbody : Spaced trail (n.heads ++ [n.rack.toList]) body) : Written (.row n) (lead ++ body)
  | other {line : List Char} (hheader : ¬ ∃ name, IsHeader line name)
    (hrow : ¬ ∃ n, IsRow line n) : Written .other line

/-- The names and columns of the line can be told from its layout. -/
def IsPrintable : Line → Prop
  | header name => name.toList ≠ [] ∧ IsTrimmed name.toList
  | row n => n.IsWellFormed ∧ IsTrimmed n.rack.toList
  | other => True

end Line

/-- The text holds the lines, each in one of its layouts and ended by a line feed, which may have a
carriage return before it. -/
inductive Prints : List Line → List Char → Prop where
  | nil : Prints [] []
  | cons {l : Line} {ls : List Line} {line ending s : List Char} (hline : l.Written line)
    (hfree : '\n' ∉ line) (hending : ending = ['\n'] ∨ ending = ['\r', '\n'])
    (hrest : Prints ls s) : Prints (l :: ls) (line ++ (ending ++ s))

/-- The lines of the table: a header for each datacenter, and a row for each of its nodes. -/
def tableLines (r : Ring) : List Line :=
  r.datacenters.flatMap fun dc => .header dc.name :: dc.nodes.map .row

/-- The text is the table of the ring, with lines that are neither header nor row between its
lines. -/
def PrintedAs (r : Ring) (text : List Char) : Prop :=
  ∃ ls, ls.filter Line.counts = r.tableLines ∧ Prints ls text

/-- Every name and every rack is some text without blanks at its ends, and the other columns are
well formed. -/
structure IsPrintable (r : Ring) : Prop where
  name : ∀ dc ∈ r.datacenters, dc.name.toList ≠ [] ∧ IsTrimmed dc.name.toList
  node : ∀ dc ∈ r.datacenters, ∀ n ∈ dc.nodes, n.IsWellFormed ∧ IsTrimmed n.rack.toList

variable {l : Line} {ls : List Line} {line w s : List Char} {ws : List (List Char)} {name : String}
  {n : Node} {r : Ring}

/-! ## Reading one line -/

/-- What begins with a state does not begin with the mark of a header. -/
theorem Spaced.ne_mark {lead lead' body rest rest' : List Char} (h : Spaced rest (w :: ws) body)
    (hlead : Blanks lead) (hw : Column.State w) (hlead' : Blanks lead') :
    lead ++ body ≠ lead' ++ ("Datacenter:".toList ++ rest') := by
  intro hline
  obtain ⟨t, rfl⟩ := h.exists_append
  obtain ⟨a, ha, b, hb, hstate⟩ := id hw
  have hbare : BeginsBare (w ++ t) := hw.visible.beginsBare hw.ne_nil t
  have hmark : BeginsBare ("Datacenter:".toList ++ rest') := beginsBare_cons.mpr (by decide)
  have hskip := congrArg skipBlanks hline
  rw [skipBlanks_append hlead, skipBlanks_append hlead', skipBlanks_eq_self hbare,
    skipBlanks_eq_self hmark, hstate] at hskip
  obtain ⟨-, hb', -⟩ : a = 'D' ∧ b = 'a' ∧ _ := by simpa using hskip
  subst hb'
  revert hb
  decide

theorem Spaced.not_isHeader {lead body rest : List Char} (h : Spaced rest (w :: ws) body)
    (hlead : Blanks lead) (hw : Column.State w) : ¬ IsHeader (lead ++ body) name := by
  rintro ⟨lead', rest', hlead', -, hline, -⟩
  have hmark : lead ++ body = lead' ++ ("Datacenter:".toList ++ ' ' :: rest') := hline
  exact h.ne_mark hlead hw hlead' hmark

/-- A row does not begin like a header. -/
theorem IsRow.not_isHeader (h : IsRow line n) : ¬ IsHeader line name := by
  obtain ⟨hn, lead, body, trail, hlead, -, rfl, hbody⟩ := h
  exact hbody.not_isHeader hlead hn.state

theorem Line.Written.ofText_eq (h : l.Written line) (hl : l.IsPrintable) :
    Line.ofText line = l := by
  cases h with
  | @header name lead trail hlead htrail =>
    have hne : name.toList ++ trail ≠ [] := List.append_ne_nil_of_left_ne_nil hl.1 trail
    have hnone : Blanks [] := by decide
    have htrim : trim (name.toList ++ trail) = name.toList := trim_append hnone hl.2 htrail
    exact ofText_header.mpr ⟨lead, _, hlead, hne, rfl, htrim.symm⟩
  | @row n lead body trail hlead htrail hbody =>
    have hrow : IsRow (lead ++ body) n := ⟨hl.1, lead, body, trail, hlead, htrail, rfl, hbody⟩
    obtain ⟨gap, hgap, hheads⟩ := (spaced_concat (List.cons_ne_nil _ _)).mp hbody
    refine ofText_row.mpr ⟨fun ⟨name, h⟩ => hrow.not_isHeader h, hl.1, lead, body, _, hlead, rfl,
      hheads, ?_, isRack_append hgap hl.1.rack hl.2 htrail⟩
    exact ⟨hl.1.rack, gap, trail, hgap, htrail, rfl⟩
  | other hheader hrow => exact ofText_other.mpr ⟨hheader, hrow⟩

/-! ## Carriage returns -/

/-- The columns do not depend on what follows them. -/
theorem Spaced.exists_front {rest : List Char} (h : Spaced rest ws s) :
    ∃ front, s = front ++ rest ∧ ∀ rest', Spaced rest' ws (front ++ rest') := by
  induction h with
  | last w => exact ⟨w, rfl, fun rest' => .last w⟩
  | @cons w gap _ _ hgap _ ih =>
    obtain ⟨front, rfl, hfront⟩ := ih
    refine ⟨w ++ (gap ++ front), by simp, fun rest' => ?_⟩
    simpa using Spaced.cons w hgap (hfront rest')

theorem IsHeader.append (h : IsHeader line name) (hw : Blanks w) : IsHeader (line ++ w) name := by
  obtain ⟨lead, rest, hlead, hne, rfl, hname⟩ := h
  refine ⟨lead, rest ++ w, hlead, List.append_ne_nil_of_left_ne_nil hne w, by simp, ?_⟩
  obtain ⟨before, after, hbefore, hafter, hrest⟩ := exists_trim rest
  have htrim : trim (before ++ (trim rest ++ (after ++ w))) = trim rest :=
    trim_append hbefore (isTrimmed_trim rest) (hafter.append hw)
  rw [hname, ← htrim]
  congr 1
  conv_rhs => rw [hrest]
  simp

theorem IsRow.append (h : IsRow line n) (hw : Blanks w) : IsRow (line ++ w) n := by
  obtain ⟨hn, lead, body, trail, hlead, htrail, rfl, hbody⟩ := h
  obtain ⟨front, rfl, hfront⟩ := hbody.exists_front
  refine ⟨hn, lead, _, trail ++ w, hlead, htrail.append hw, ?_, hfront _⟩
  simp

/-- What is printed last ends bare, so a blank behind it belongs to the blanks at the end. -/
theorem exists_trail {label trail : List Char} {c : Char} (hc : isBlank c = true)
    (hne : label ≠ []) (hlabel : IsTrimmed label) (h : s ++ (label ++ trail) = line ++ [c]) :
    ∃ trail', trail = trail' ++ [c] ∧ line = s ++ (label ++ trail') := by
  rcases List.eq_nil_or_concat trail with rfl | ⟨trail', d, rfl⟩
  · have hlast := congrArg (fun t => t.reverse.head?) h
    obtain ⟨d, t, hcons⟩ := List.exists_cons_of_ne_nil (List.reverse_ne_nil_iff.mpr hne)
    have hbare : isBlank d = false := beginsBare_cons.mp (hcons ▸ hlabel.2)
    have hd : d = c := by simpa [hcons] using hlast
    rw [hd, hc] at hbare
    cases hbare
  · have hsplit : (s ++ (label ++ trail')) ++ [d] = line ++ [c] := by simpa using h
    obtain ⟨hline, hd⟩ := List.append_inj' hsplit rfl
    exact ⟨trail', by simpa using hd, hline.symm⟩

/-- A layout with a carriage return at its end is one without it. -/
theorem Line.Written.of_return (h : l.Written (line ++ ['\r'])) (hl : l.IsPrintable) :
    l.Written line := by
  generalize hreturn : line ++ ['\r'] = text at h
  have hblanks : Blanks ['\r'] := by decide
  cases h with
  | @header name lead trail hlead htrail =>
    have hsplit : (lead ++ "Datacenter: ".toList) ++ (name.toList ++ trail) = line ++ ['\r'] := by
      simpa using hreturn.symm
    obtain ⟨trail', rfl, rfl⟩ := exists_trail (by decide) hl.1 hl.2 hsplit
    have htrail' : Blanks trail' := fun c hc => htrail c (List.mem_append_left _ hc)
    have hheader : (Line.header name).Written
        (lead ++ ("Datacenter: ".toList ++ (name.toList ++ trail'))) := .header hlead htrail'
    simpa using hheader
  | @row n lead body trail hlead htrail hbody =>
    have hheads : n.heads ≠ [] := List.cons_ne_nil _ _
    obtain ⟨gap, hgap, hspaced⟩ := (spaced_concat hheads).mp hbody
    obtain ⟨front, rfl, hfront⟩ := hspaced.exists_front
    have hsplit : (lead ++ (front ++ gap)) ++ (n.rack.toList ++ trail) = line ++ ['\r'] := by
      simpa using hreturn.symm
    obtain ⟨trail', rfl, rfl⟩ := exists_trail (by decide) hl.1.rack hl.2 hsplit
    have htrail' : Blanks trail' := fun c hc => htrail c (List.mem_append_left _ hc)
    have hbody' := (spaced_concat hheads).mpr ⟨gap, hgap, hfront (gap ++ (n.rack.toList ++ trail'))⟩
    simpa using Line.Written.row hlead htrail' hbody'
  | other hheader hrow =>
    subst hreturn
    exact .other (fun ⟨name, h⟩ => hheader ⟨name, h.append hblanks⟩)
      (fun ⟨n, h⟩ => hrow ⟨n, h.append hblanks⟩)

/-! ## Reading the table -/

theorem Prints.ofText_lines (h : Prints ls s) (hls : ∀ l ∈ ls, l.IsPrintable) :
    (lines s).map Line.ofText = ls := by
  induction h with
  | nil => rfl
  | @cons l ls line ending s hline hfree hending _ ih =>
    obtain ⟨hl, hls⟩ := List.forall_mem_cons.mp hls
    -- What is left of the line is a layout of it, whichever way it ends.
    obtain ⟨line', hlines, hline'⟩ : ∃ line', lines (line ++ (ending ++ s)) = line' :: lines s ∧
        l.Written line' := by
      rcases hending with rfl | rfl
      · refine ⟨_, lines_append hfree s, ?_⟩
        rcases closeLine_cases line with hclose | hclose
        · rwa [← hclose]
        · exact Line.Written.of_return (hclose ▸ hline) hl
      · have hfree' : '\n' ∉ line ++ ['\r'] := by simp [hfree]
        have hreturn := lines_append hfree' s
        rw [closeLine_return] at hreturn
        exact ⟨line, by simpa using hreturn, hline⟩
    rw [hlines, List.map_cons, hline'.ofText_eq hl, ih hls]

theorem rowsHere_rows (ns : List Node) (ls : List Line) :
    rowsHere (ns.map .row ++ ls) = ns ++ rowsHere ls := by
  induction ns with
  | nil => rfl
  | cons n ns ih => exact congrArg (n :: ·) ih

theorem datacentersOf_rows (ns : List Node) (ls : List Line) :
    datacentersOf (ns.map .row ++ ls) = datacentersOf ls := by
  induction ns with
  | nil => rfl
  | cons n ns ih => exact ih

theorem datacentersOf_tableLines (r : Ring) : datacentersOf r.tableLines = r.datacenters := by
  obtain ⟨dcs⟩ := r
  unfold tableLines
  induction dcs with
  | nil => rfl
  | cons dc dcs ih =>
    have hnext : rowsHere (dcs.flatMap fun dc => .header dc.name :: dc.nodes.map .row) = [] := by
      cases dcs <;> rfl
    rw [List.flatMap_cons, List.cons_append, datacentersOf, rowsHere_rows, datacentersOf_rows,
      hnext, ih, List.append_nil]

theorem IsPrintable.tableLines (hr : r.IsPrintable) : ∀ l ∈ r.tableLines, l.IsPrintable := by
  intro l hl
  obtain ⟨dc, hdc, hl⟩ := List.mem_flatMap.mp hl
  rcases List.mem_cons.mp hl with rfl | hl
  · exact hr.name dc hdc
  · obtain ⟨n, hn, rfl⟩ := List.mem_map.mp hl
    exact hr.node dc hdc n hn

/--
**Reading undoes printing.** A printable ring is read back from every text that shows its table:
with any blanks before, behind and between the columns, any other lines among those of the table,
and both kinds of line ends.
-/
theorem ofText_printed {r : Ring} {text : String} (hr : r.IsPrintable)
    (htext : r.PrintedAs text.toList) : ofText text = r := by
  obtain ⟨ls, hcount, hprints⟩ := htext
  have hls : ∀ l ∈ ls, l.IsPrintable := by
    intro l hl
    cases hcounts : l.counts with
    | true => exact hr.tableLines l (hcount ▸ List.mem_filter.mpr ⟨hl, hcounts⟩)
    | false =>
      cases l with
      | header name => cases hcounts
      | row n => cases hcounts
      | other => trivial
  unfold ofText
  rw [hprints.ofText_lines hls, ← datacentersOf_filter, hcount, datacentersOf_tableLines]

theorem ofText_printed_wide :
    ofText "Note: r1\n\tDatacenter: dc 1 \r\nUN 10.0.0.1\t1.5 KiB  256 ? ab-1\u3000rack 1\r\r\n" =
      ⟨[⟨"dc 1", [⟨"UN", "10.0.0.1", "1.5 KiB", "256", "?", "ab-1", "rack 1"⟩]⟩]⟩ := by
  have hnote : Line.ofText "Note: r1".toList = .other := by decide
  have hline : Line.ofText "UN 10.0.0.1\t1.5 KiB  256 ? ab-1\u3000rack 1\r".toList =
      .row ⟨"UN", "10.0.0.1", "1.5 KiB", "256", "?", "ab-1", "rack 1"⟩ := by decide
  have hother := ofText_other.mp hnote
  obtain ⟨-, hreads⟩ := ofText_row.mp hline
  obtain ⟨hn, lead, body, trail, hlead, htrail, hsplit, hbody⟩ := hreads.isRow
  have hrow := hsplit ▸ Line.Written.row hlead htrail hbody
  have hblanks : Blanks ['\t'] ∧ Blanks [' '] := by decide
  have hheader : Line.Written (.header "dc 1") "\tDatacenter: dc 1 ".toList :=
    .header hblanks.1 hblanks.2
  have hprints := Prints.cons (.other hother.1 hother.2) (by decide) (.inl rfl)
    (.cons hheader (by decide) (.inr rfl) (.cons hrow (by decide) (.inr rfl) .nil))
  refine ofText_printed ⟨?_, ?_⟩ ⟨[.other, .header "dc 1", .row _], rfl, ?_⟩
  · decide
  · simpa using ⟨hn, by decide⟩
  · convert hprints using 1
    decide

end Ring

end RingKeeper
