import RingKeeper.Admin.Tool
import RingKeeper.Proofs.Plan
import RingKeeper.Proofs.Ring.Table

/-!
# Warnings of the administration tool

What the tool prints as warnings is decoded by itself and put behind its output, before the ring or
the gossip flag is read from both.

1. `decode_getLast?` says that output which ends with a line feed is decoded to a text that does, so
   that no warning is part of its last line.
2. `IsGossip` is the form of the line with the gossip flag, and `gossipLine?_iff` says that it is
   read exactly so.
3. `ofText_text` and `gossip?_text` say that warnings without a line that is read do not count, and
   `warnings_do_not_count` what the tool answers then.
-/

namespace RingKeeper

/-! ## Line ends in bytes -/

namespace Text

/-- No byte of a character that is being read is a line feed. -/
def Reading.IsWide : Reading → Prop
  | .fresh => True
  | .within _ _ range => 0x80 ≤ range.1

theorem isWide_startAt (b : UInt8) : (startAt b).2.IsWide := by
  unfold startAt
  split
  · trivial
  split
  · show 0x80 ≤ (secondByteRange b).1
    unfold secondByteRange
    split
    · decide
    split
    · decide
    split
    · decide
    split <;> decide
  · trivial

theorem isWide_takeByte (reading : Reading) (b : UInt8) : (takeByte reading b).2.IsWide := by
  cases reading with
  | fresh => exact isWide_startAt b
  | within bits due range =>
    rw [takeByte]
    split
    · split
      · trivial
      · show (0x80 : UInt8) ≤ 0x80
        decide
    · exact isWide_startAt b

/-- A line feed stands for itself, also where it breaks off a character. -/
theorem takeByte_lineFeed {reading : Reading} (h : reading.IsWide) :
    ∃ cs, takeByte reading 0x0A = (cs ++ ['\n'], .fresh) := by
  cases reading with
  | fresh => exact ⟨[], rfl⟩
  | within bits due range =>
    have hout : ¬ range.1 ≤ 0x0A := fun hle => absurd (UInt8.le_trans h hle) (by decide)
    refine ⟨[replacement], ?_⟩
    rw [takeByte, decide_eq_false hout, Bool.false_and, if_neg Bool.false_ne_true]
    rfl

theorem decodeFrom_lineFeed (reading : Reading) (h : reading.IsWide) (bytes : List UInt8) :
    ∃ cs, decodeFrom reading (bytes ++ [0x0A]) = cs ++ ['\n'] := by
  induction bytes generalizing reading with
  | nil =>
    obtain ⟨cs, hcs⟩ := takeByte_lineFeed h
    refine ⟨cs, ?_⟩
    rw [List.nil_append, decodeFrom, hcs]
    simp [decodeFrom]
  | cons b bytes ih =>
    obtain ⟨cs, hcs⟩ := ih _ (isWide_takeByte reading b)
    refine ⟨(takeByte reading b).1 ++ cs, ?_⟩
    rw [List.cons_append, decodeFrom, List.append_assoc, ← hcs]

/-- Bytes that end with a line feed are decoded to a text that does. -/
theorem decode_getLast? {bytes : List UInt8} (h : bytes.getLast? = some 0x0A) :
    (decode bytes).toList.getLast? = some '\n' := by
  obtain ⟨front, rfl⟩ := List.getLast?_eq_some_iff.mp h
  obtain ⟨cs, hcs⟩ := decodeFrom_lineFeed .fresh trivial front
  unfold decode
  rw [String.toList_ofList, hcs, List.getLast?_concat]

end Text

/-! ## The gossip flag -/

namespace Ring

open Text

/-- The label, a colon and a truth value, with blanks between them and perhaps around them. -/
def IsGossip (line : List Char) (active : Bool) : Prop :=
  ∃ lead gap gap' trail, Blanks lead ∧ IsGap gap ∧ IsGap gap' ∧ Blanks trail ∧
    line = lead ++ ("Gossip active".toList ++ (gap ++ ':' :: (gap' ++
      ((if active then "true" else "false").toList ++ trail))))

variable {line s t : List Char} {active : Bool}

/-- A blank and more, up to what does not begin with a blank. -/
theorem exists_gap {c d : Char} (hc : isBlank c = true) (h : skipBlanks s = d :: t) :
    ∃ gap, IsGap gap ∧ c :: s = gap ++ d :: t := by
  obtain ⟨w, hw, hs⟩ := exists_skipBlanks s
  refine ⟨c :: w, ⟨List.cons_ne_nil c w, List.forall_mem_cons.mpr ⟨hc, hw⟩⟩, ?_⟩
  rw [List.cons_append, ← h, ← hs]

theorem isGossip_of_gossipLine? (h : gossipLine? line = some active) : IsGossip line active := by
  unfold gossipLine? at h
  obtain ⟨rest, hlabel, h⟩ := Option.bind_eq_some_iff.mp h
  obtain ⟨lead, hlead, hline⟩ := exists_skipBlanks line
  rw [← List.isPrefixOf?_eq_some_iff_append_eq.mp hlabel] at hline
  cases rest with
  | nil => cases h
  | cons c s =>
    dsimp only at h
    split at h
    · cases h
    rename_i hc
    split at h
    · rename_i d t hcolon
      obtain ⟨gap, hgap, hsplit⟩ := exists_gap (by simpa using hc) hcolon
      split at h
      · cases h
      rename_i hd
      obtain ⟨before, trail, hbefore, htrail, ht⟩ := exists_trim t
      have hgap' : IsGap (d :: before) :=
        ⟨List.cons_ne_nil d before, List.forall_mem_cons.mpr ⟨by simpa using hd, hbefore⟩⟩
      have hvalue : trim t = (if active then "true" else "false").toList := by
        split at h
        · rename_i htrue
          cases h
          exact htrue
        · split at h
          · rename_i hfalse
            cases h
            exact hfalse
          · cases h
      refine ⟨lead, gap, d :: before, trail, hlead, hgap, hgap', htrail, ?_⟩
      rw [hline, hsplit, ← hvalue, List.cons_append, ← ht]
    · cases h

theorem gossipLine?_of_isGossip (h : IsGossip line active) : gossipLine? line = some active := by
  obtain ⟨lead, gap, gap', trail, hlead, hgap, hgap', htrail, rfl⟩ := h
  obtain ⟨c, g, rfl⟩ := List.exists_cons_of_ne_nil hgap.1
  obtain ⟨d, g', rfl⟩ := List.exists_cons_of_ne_nil hgap'.1
  obtain ⟨hc, hg⟩ := List.forall_mem_cons.mp hgap.2
  obtain ⟨hd, hg'⟩ := List.forall_mem_cons.mp hgap'.2
  have hlabel (rest : List Char) : "Gossip active".toList.isPrefixOf?
      (skipBlanks (lead ++ ("Gossip active".toList ++ rest))) = some rest := by
    have hbare : BeginsBare ("Gossip active".toList ++ rest) := beginsBare_cons.mpr (by decide)
    rw [skipBlanks_append hlead, skipBlanks_eq_self hbare]
    exact List.isPrefixOf?_eq_some_iff_append_eq.mpr rfl
  have hcolon (rest : List Char) : skipBlanks (g ++ ':' :: rest) = ':' :: rest := by
    rw [skipBlanks_append hg, skipBlanks_eq_self (beginsBare_cons.mpr (by decide))]
  have hvalue : trim (g' ++ ((if active then "true" else "false").toList ++ trail)) =
      (if active then "true" else "false").toList := by
    refine trim_append hg' ?_ htrail
    cases active <;> decide
  unfold gossipLine?
  simp only [hlabel, List.cons_append, Option.bind_eq_bind, Option.bind_some, hc, hcolon, hd,
    hvalue, Bool.not_true, Bool.false_eq_true, if_false]
  cases active <;> rfl

theorem gossipLine?_iff : gossipLine? line = some active ↔ IsGossip line active :=
  ⟨isGossip_of_gossipLine?, gossipLine?_of_isGossip⟩

end Ring

/-! ## Warnings -/

namespace Admin

open Plan (Runs)
open RingKeeper.Ring (IsGossip IsHeader IsRow)
open Text (decode lines)

/-- The output is empty or ends with a line feed. -/
def Finished.EndsLine (r : Finished) : Prop := r.stdout = [] ∨ r.stdout.getLast? = some 0x0A

/-- There is no flag to be found in the output. -/
def LacksFlag (a : Attempt Bool) : Prop :=
  ∃ output, a = .error (.ofKind (.gossipStateMissing output))

section
variable {r : Finished}

theorem Finished.EndsLine.lines_text (h : r.EndsLine) :
    lines r.text.toList = lines (decode r.stdout).toList ++ lines (decode r.stderr).toList := by
  unfold Finished.text
  rw [String.toList_append]
  refine Text.lines_append_lines ?_ _
  rcases h with h | h
  · rw [h]
    exact Or.inl rfl
  · exact Or.inr (Text.decode_getLast? h)

/-- Warnings without a header or a row do not change the ring. -/
theorem ofText_text (h : r.EndsLine) (hwarnings : ∀ line ∈ lines (decode r.stderr).toList,
      (¬ ∃ name, IsHeader line name) ∧ ¬ ∃ n, IsRow line n) :
    Ring.ofText r.text = Ring.ofText (decode r.stdout) := by
  have hskip (before : List (List Char)) :
      Ring.datacentersOf ((before ++ (lines (decode r.stderr).toList ++ [])).map Ring.Line.ofText) =
        Ring.datacentersOf ((before ++ []).map Ring.Line.ofText) :=
    Ring.datacentersOf_skip (fun line hline => (hwarnings line hline).1)
      (Or.inl fun line hline => (hwarnings line hline).2)
  simp only [List.append_nil] at hskip
  unfold Ring.ofText
  rw [h.lines_text, hskip]

/-- Warnings without a flag do not change the flag. -/
theorem gossip?_text (h : r.EndsLine) (hwarnings : ∀ line ∈ lines (decode r.stderr).toList,
      ¬ ∃ active, IsGossip line active) :
    Ring.gossip? r.text = Ring.gossip? (decode r.stdout) := by
  have hnone : (lines (decode r.stderr).toList).findSome? Ring.gossipLine? = none := by
    rw [List.findSome?_eq_none_iff]
    intro line hline
    rw [Option.eq_none_iff_forall_ne_some]
    intro active hactive
    exact hwarnings line hline ⟨active, Ring.gossipLine?_iff.mp hactive⟩
  unfold Ring.gossip?
  rw [h.lines_text, List.findSome?_append, hnone, Option.or_none]

theorem gossipOf_eq_ok {report : String} {active : Bool} :
    gossipOf (.ok report) = .ok active ↔ Ring.gossip? report = some active := by
  unfold gossipOf
  dsimp only
  cases Ring.gossip? report <;> simp

theorem lacksFlag_gossipOf {report : String} :
    LacksFlag (gossipOf (.ok report)) ↔ Ring.gossip? report = none := by
  unfold LacksFlag gossipOf
  dsimp only
  cases Ring.gossip? report with
  | none => exact iff_of_true ⟨report, rfl⟩ rfl
  | some active => exact iff_of_false (fun ⟨output, h⟩ => nomatch h) nofun

end

section
variable {S α β : Type} {react : (q : Tool.Question) → S → Tool.Answer q → S → Prop} {s s' : S}

/-- The procedure comes to its end in one way: with this result, and leaving that state. -/
def ComesTo (react : (q : Tool.Question) → S → Tool.Answer q → S → Prop) (p : Tool.Procedure α)
    (s : S) (a : α) (s' : S) : Prop :=
  ∀ b t, Runs react p s b t ↔ b = a ∧ t = s'

theorem ComesTo.map {p : Tool.Procedure α} {a : α} (h : ComesTo react p s a s') (f : α → β) :
    ComesTo react (f <$> p) s (f a) s' := by
  intro b t
  show Runs react (p >>= fun a => .done (f a)) s b t ↔ _
  rw [Plan.runs_bind]
  constructor
  · rintro ⟨a', s₁, hp, hdone⟩
    obtain ⟨rfl, rfl⟩ := (h _ _).mp hp
    exact Plan.runs_done.mp hdone
  · rintro ⟨rfl, rfl⟩
    exact ⟨a, t, (h _ _).mpr ⟨rfl, rfl⟩, .done _ _⟩

/-- The question by which the tool is run for a command. -/
def Tool.execution (t : Tool) (command : String) : Tool.Procedure (Except String Finished) :=
  Tool.ask (.execute t.executable (t.arguments command))

theorem Tool.comesTo_run {t : Tool} {command : String} {r : Finished}
    (h : ComesTo react (t.execution command) s (.ok r) s') :
    ComesTo react (t.run command) s (answerOf t.executable command (.ok r)) s' :=
  h.map (answerOf t.executable command)

end

/--
**Warnings do not change what the tool reports.** Let the executable come to its end.

- If it succeeded, its output is empty or ends with a line feed, and none of its warnings is a header
  or a row, the ring is that of the output alone. If none of them is a line with a gossip flag, the
  flag is that of the output alone, and it is lacking exactly if it is there.
- If it did not succeed, the command failed, whatever was printed.
-/
theorem warnings_do_not_count (t : Tool) (r : Finished) {S : Type}
    {react : (q : Tool.Question) → S → Tool.Answer q → S → Prop} {s s' : S} :
    (ComesTo react (t.execution statusCommand) s (.ok r) s' →
      (r.succeeded = true → r.EndsLine →
        (∀ line ∈ lines (decode r.stderr).toList,
          (¬ ∃ name, IsHeader line name) ∧ ¬ ∃ n, IsRow line n) →
        ComesTo react (ringOf <$> t.run statusCommand) s (.ok (Ring.ofText (decode r.stdout))) s') ∧
      (r.succeeded = false → ComesTo react (ringOf <$> t.run statusCommand) s
        (.error (.ofKind (.commandFailed statusCommand r.text))) s')) ∧
    (ComesTo react (t.execution infoCommand) s (.ok r) s' →
      (r.succeeded = true → r.EndsLine →
        (∀ line ∈ lines (decode r.stderr).toList, ¬ ∃ active, IsGossip line active) →
        ∃ a, ComesTo react (gossipOf <$> t.run infoCommand) s a s' ∧
          (∀ active, a = .ok active ↔ gossipOf (.ok (decode r.stdout)) = .ok active) ∧
          (LacksFlag a ↔ LacksFlag (gossipOf (.ok (decode r.stdout))))) ∧
      (r.succeeded = false → ComesTo react (gossipOf <$> t.run infoCommand) s
        (.error (.ofKind (.commandFailed infoCommand r.text))) s')) := by
  have hsucceeds (command : String) (h : r.succeeded = true) :
      answerOf t.executable command (.ok r) = .ok r.text := if_pos h
  have hfails (command : String) (h : r.succeeded = false) :
      answerOf t.executable command (.ok r) = .error (.ofKind (.commandFailed command r.text)) :=
    if_neg (by simp [h])
  refine ⟨fun hrun => ⟨fun hok hline hwarnings => ?_, fun hok => ?_⟩,
    fun hrun => ⟨fun hok hline hwarnings => ?_, fun hok => ?_⟩⟩
  · have hring := (Tool.comesTo_run hrun).map ringOf
    rwa [hsucceeds _ hok, ringOf, ofText_text hline hwarnings] at hring
  · have hring := (Tool.comesTo_run hrun).map ringOf
    rwa [hfails _ hok] at hring
  · have hflag := (Tool.comesTo_run hrun).map gossipOf
    rw [hsucceeds _ hok] at hflag
    refine ⟨_, hflag, fun active => ?_, ?_⟩
    · rw [gossipOf_eq_ok, gossipOf_eq_ok, gossip?_text hline hwarnings]
    · rw [lacksFlag_gossipOf, lacksFlag_gossipOf, gossip?_text hline hwarnings]
  · have hflag := (Tool.comesTo_run hrun).map gossipOf
    rwa [hfails _ hok] at hflag

/-- A run that tells of a datacenter and of gossip, with a warning of broken characters and a lone
carriage return. -/
def warned : Finished where
  stdout := "Datacenter: d\nGossip active : true\n".toList.map fun c => c.toNat.toUInt8
  stderr := [0xFF, 0xE2, 0x82, 0x0D]
  succeeded := true

/-- Whatever is executed, it comes to this run. -/
def OnlyWarns : (q : Tool.Question) → Unit → Tool.Answer q → Unit → Prop
  | .execute .., _, x, _ => x = .ok warned
  | _, _, _, _ => True

def plainTool : Tool := { executable := "nodetool", useSsl := false }

theorem warnings_do_not_count_broken :
    (∀ command, ComesTo OnlyWarns (plainTool.execution command) () (.ok warned) ()) ∧
      warned.EndsLine ∧
      ComesTo OnlyWarns (ringOf <$> plainTool.run statusCommand) () (.ok ⟨[⟨"d", []⟩]⟩) () ∧
      ComesTo OnlyWarns (gossipOf <$> plainTool.run infoCommand) () (.ok true) () := by
  have hrun (command : String) :
      ComesTo OnlyWarns (plainTool.execution command) () (.ok warned) () := by
    intro b t
    exact Plan.runs_request.trans (and_iff_left rfl).symm
  have hline : warned.EndsLine := Or.inr rfl
  have hwarnings : ∀ line ∈ lines (decode warned.stderr).toList,
      Ring.Line.ofText line = .other ∧ Ring.gossipLine? line = none := by decide
  obtain ⟨hring, hflag⟩ := @warnings_do_not_count plainTool warned Unit OnlyWarns () ()
  have hring := (hring (hrun statusCommand)).1 rfl hline fun line hmem =>
    Ring.ofText_other.mp (hwarnings line hmem).1
  obtain ⟨a, hcomes, hsame, -⟩ := (hflag (hrun infoCommand)).1 rfl hline fun line hmem =>
    fun ⟨active, hactive⟩ => by
      have hnone := (hwarnings line hmem).2
      rw [Ring.gossipLine?_iff.mpr hactive] at hnone
      cases hnone
  have hreport : Ring.ofText (decode warned.stdout) = ⟨[⟨"d", []⟩]⟩ := by decide +kernel
  have hactive : gossipOf (.ok (decode warned.stdout)) = .ok true := by decide +kernel
  rw [hreport] at hring
  rw [(hsame true).mpr hactive] at hcomes
  exact ⟨hrun, hline, hring, hcomes⟩

end Admin

end RingKeeper
