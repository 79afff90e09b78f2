import RingKeeper.Settings.Bootstrap

/-!
# Which texts are time spans

1. `Part` is a number with its unit, and `written` is how a list of parts is written.
   `pieces_written` and `exists_written` say that a text falls into parts, and holds nothing else,
   exactly if it is a list of parts as it is written; there is only one such list
   (`written_injective`).
2. `sum_parts` says that parts are added up exactly if each number fits 64 bits and their sum the
   clock, and that nothing is lost then.
3. `span_iff_written` is what reading a span comes to.
-/

namespace RingKeeper.Span

/-! ## Parts as they are written -/

def TimeUnit.text : TimeUnit → List Char
  | hours => ['h']
  | minutes => ['m']
  | seconds => ['s']
  | millis => ['m', 's']

/-- A number with its unit. -/
structure Part where
  digits : List Char
  unit : TimeUnit
deriving DecidableEq, Repr

namespace Part

/-- The number has one digit at least, and nothing but digits. -/
def IsWellFormed (p : Part) : Prop := p.digits ≠ [] ∧ ∀ c ∈ p.digits, c.isDigit = true

instance (p : Part) : Decidable p.IsWellFormed :=
  have := List.decidableBAll (fun c => c.isDigit = true) p.digits
  instDecidableAnd

def text (p : Part) : List Char := p.digits ++ p.unit.text

def number (p : Part) : Nat := Nat.ofDigitChars 10 p.digits 0

def nanos (p : Part) : Nat := p.number * p.unit.nanos

def piece (p : Part) : Piece := .part p.digits p.unit

theorem piece_injective : Function.Injective piece := by
  rintro ⟨ds, u⟩ ⟨es, v⟩ h
  cases h
  rfl

end Part

/-- The parts one after the other, with nothing between them. -/
def written (ps : List Part) : List Char := ps.flatMap Part.text

/-- The exact sum, in nanoseconds. -/
def total : List Part → Nat
  | [] => 0
  | p :: ps => p.nanos + total ps

@[simp] theorem written_nil : written [] = [] := rfl

@[simp] theorem written_cons (p : Part) (ps : List Part) :
    written (p :: ps) = p.text ++ written ps := rfl

@[simp] theorem total_nil : total [] = 0 := rfl

@[simp] theorem total_cons (p : Part) (ps : List Part) :
    total (p :: ps) = p.nanos + total ps := rfl

/-! ## The pieces of a text -/

variable {ds s w : List Char} {p : Part} {ps : List Part}

theorem piecesFrom_digit {c : Char} (hc : c.isDigit = true) :
    piecesFrom ds (c :: s) = piecesFrom (c :: ds) s := by
  have hne : ∀ d : Char, d.isDigit = false → c ≠ d := by
    rintro d hd rfl
    rw [hc] at hd
    cases hd
  rw [piecesFrom, if_pos hc]
  · exact fun _ h _ => hne 'm' (by decide) h
  · exact hne 'h' (by decide)
  · exact hne 'm' (by decide)
  · exact hne 's' (by decide)

theorem piecesFrom_digits (hw : ∀ c ∈ w, c.isDigit = true) :
    piecesFrom ds (w ++ s) = piecesFrom (w.reverse ++ ds) s := by
  induction w generalizing ds with
  | nil => rfl
  | cons c w ih =>
    rw [List.cons_append, piecesFrom_digit (hw c List.mem_cons_self),
      ih fun d hd => hw d (List.mem_cons_of_mem c hd)]
    simp

/-- A unit ends the number before it. An `m` is a unit of its own unless an `s` follows. -/
theorem piecesFrom_unit (hds : ds ≠ []) (u : TimeUnit)
    (hs : u = .minutes → s.head? ≠ some 's') :
    piecesFrom ds (u.text ++ s) = .part ds.reverse u :: piecesFrom [] s := by
  cases u with
  | millis => simp [TimeUnit.text, piecesFrom, hds]
  | hours => simp [TimeUnit.text, piecesFrom, hds]
  | seconds => simp [TimeUnit.text, piecesFrom, hds]
  | minutes =>
    show piecesFrom ds ('m' :: s) = _
    rw [piecesFrom]
    · simp [hds]
    · rintro t - rfl
      exact hs rfl rfl

theorem piecesFrom_text (hp : p.IsWellFormed) (hs : s.head? ≠ some 's') :
    piecesFrom [] (p.text ++ s) = p.piece :: piecesFrom [] s := by
  have hds : p.digits.reverse ≠ [] := by simpa using hp.1
  have hunit := piecesFrom_unit (s := s) hds p.unit fun _ => hs
  rw [List.reverse_reverse] at hunit
  rw [Part.text, List.append_assoc, piecesFrom_digits hp.2, List.append_nil]
  exact hunit

/-- What is written begins with a digit, hence not with what could belong to a unit before it. -/
theorem head?_written (h : ∀ p ∈ ps, p.IsWellFormed) : (written ps).head? ≠ some 's' := by
  cases ps with
  | nil => exact nofun
  | cons p ps =>
    obtain ⟨hne, hdigits⟩ := h p List.mem_cons_self
    obtain ⟨c, w, hw⟩ := List.exists_cons_of_ne_nil hne
    have hc : c.isDigit = true := hdigits c (hw ▸ List.mem_cons_self)
    have hhead : (written (p :: ps)).head? = some c := by simp [Part.text, hw]
    rw [hhead]
    rintro ⟨⟩
    cases hc

theorem pieces_written (h : ∀ p ∈ ps, p.IsWellFormed) :
    pieces (written ps) = ps.map Part.piece := by
  induction ps with
  | nil => rfl
  | cons p ps ih =>
    have hps : ∀ q ∈ ps, q.IsWellFormed := fun q hq => h q (List.mem_cons_of_mem p hq)
    unfold pieces at ih ⊢
    rw [written_cons, piecesFrom_text (h p List.mem_cons_self) (head?_written hps), ih hps,
      List.map_cons]

/-- A text is written in one way at most. -/
theorem written_injective {qs : List Part} (hps : ∀ p ∈ ps, p.IsWellFormed)
    (hqs : ∀ q ∈ qs, q.IsWellFormed) (h : written ps = written qs) : ps = qs := by
  have hpieces : ps.map Part.piece = qs.map Part.piece := by
    rw [← pieces_written hps, ← pieces_written hqs, h]
  exact (List.map_inj_right fun _ _ hpq => Part.piece_injective hpq).mp hpieces

/-- Whether the text is a list of parts as it is written. -/
def IsWritten (s : List Char) : Prop :=
  ∃ ps : List Part, (∀ p ∈ ps, p.IsWellFormed) ∧ s = written ps

theorem IsWritten.cons (hne : ds ≠ []) (hds : ∀ c ∈ ds, c.isDigit = true) (u : TimeUnit)
    (hs : IsWritten s) : IsWritten (ds.reverse ++ (u.text ++ s)) := by
  obtain ⟨ps, hps, rfl⟩ := hs
  refine ⟨⟨ds.reverse, u⟩ :: ps, List.forall_mem_cons.mpr ⟨⟨?_, ?_⟩, hps⟩, ?_⟩
  · simpa using hne
  · simpa using hds
  · simp [Part.text]

/-- Where no text is stray, there is nothing but parts. -/
theorem exists_written (hds : ∀ c ∈ ds, c.isDigit = true) (h : .stray ∉ piecesFrom ds s) :
    IsWritten (ds.reverse ++ s) := by
  have hnone : ∀ c ∈ ([] : List Char), c.isDigit = true := nofun
  fun_induction piecesFrom ds s with
  | case1 ds hempty =>
    obtain rfl := List.isEmpty_iff.mp hempty
    exact ⟨[], nofun, rfl⟩
  | case2 => simp at h
  | case3 => simp at h
  | case4 ds s hne ih =>
    exact (ih hnone fun hs => h (List.mem_cons_of_mem _ hs)).cons (by simpa using hne) hds .millis
  | case5 ds c s _ hc ih =>
    have hcs : ∀ d ∈ c :: ds, d.isDigit = true := List.forall_mem_cons.mpr ⟨hc, hds⟩
    simpa using ih hcs h
  | case6 => simp at h
  | case7 ds s hne _ _ ih =>
    exact (ih hnone fun hs => h (List.mem_cons_of_mem _ hs)).cons (by simpa using hne) hds .hours
  | case8 ds s hne _ _ ih =>
    exact (ih hnone fun hs => h (List.mem_cons_of_mem _ hs)).cons (by simpa using hne) hds .minutes
  | case9 ds s hne _ _ ih =>
    exact (ih hnone fun hs => h (List.mem_cons_of_mem _ hs)).cons (by simpa using hne) hds .seconds
  | case10 => simp at h

/-! ## The sum -/

theorem sum_parts {d e : Span} (hd : d.Fits) :
    sum d (ps.map Part.piece) = .ok e ↔
      (∀ p ∈ ps, p.number < Width.bits64) ∧ d.nanos + total ps < limit ∧
        e.nanos = d.nanos + total ps := by
  induction ps generalizing d with
  | nil =>
    constructor
    · intro h
      cases h
      exact ⟨nofun, hd, rfl⟩
    · rintro ⟨-, -, h⟩
      exact congrArg Except.ok (congrArg Span.mk h.symm)
  | cons p ps ih =>
    rw [List.map_cons, List.forall_mem_cons, total_cons, ← Nat.add_assoc, Part.piece, sum]
    have hnumber : decimal p.digits = p.number := rfl
    dsimp only
    rw [hnumber]
    by_cases hbits : Width.bits64 ≤ p.number
    · rw [if_pos hbits]
      exact ⟨nofun, fun h => absurd h.1.1 (Nat.not_lt.mpr hbits)⟩
    · rw [if_neg hbits]
      by_cases hfits : (⟨d.nanos + p.nanos⟩ : Span).Fits
      · rw [if_pos (show (⟨d.nanos + p.number * p.unit.nanos⟩ : Span).Fits from hfits)]
        rw [show p.number * p.unit.nanos = p.nanos from rfl, ih hfits]
        exact ⟨fun ⟨hall, hsum⟩ => ⟨⟨Nat.not_le.mp hbits, hall⟩, hsum⟩,
          fun ⟨⟨_, hall⟩, hsum⟩ => ⟨hall, hsum⟩⟩
      · rw [if_neg (show ¬ (⟨d.nanos + p.number * p.unit.nanos⟩ : Span).Fits from hfits)]
        refine ⟨nofun, fun ⟨_, hlimit, _⟩ => absurd ?_ hfits⟩
        exact Nat.lt_of_le_of_lt (Nat.le_add_right _ _) hlimit

/-! ## Reading -/

theorem ofText_ok {text : String} {d : Span} :
    ofText text = .ok d ↔
      pieces (Text.trim text.toList) ≠ [] ∧ .stray ∉ pieces (Text.trim text.toList) ∧
        sum zero (pieces (Text.trim text.toList)) = .ok d := by
  unfold ofText
  dsimp only
  cases hsum : sum zero (pieces (Text.trim text.toList)) with
  | error e => simp
  | ok total =>
    by_cases hempty : pieces (Text.trim text.toList) = []
    · simp [hempty]
    · by_cases hstray : Piece.stray ∈ pieces (Text.trim text.toList) <;> simp [hempty, hstray]

theorem readSpan_ok {raw : String} {d : Span} : readSpan raw = .ok d ↔ ofText raw = .ok d := by
  unfold readSpan
  cases ofText raw with
  | ok e => simp
  | error e => cases e <;> exact ⟨nofun, nofun⟩

theorem kind_readSpan {raw : String} {f : Fault} (h : readSpan raw = .error f) :
    f.kind = .invalidDuration raw := by
  unfold readSpan at h
  cases hread : ofText raw with
  | ok d => rw [hread] at h; cases h
  | error e => cases e <;> (rw [hread] at h; cases h; rfl)

/--
**A text is a span exactly if it is written as one.** Without the blanks around it, it is a list of
one part or more, each number fits 64 bits, and so do the seconds of the sum; then the span is that
sum to the nanosecond. There is at most one such list. Any other text is refused by its own words.
-/
theorem span_iff_written (raw : String) :
    (∀ d, readSpan raw = .ok d ↔
      ∃ ps : List Part, ps ≠ [] ∧ (∀ p ∈ ps, p.IsWellFormed) ∧
        Text.trim raw.toList = written ps ∧ (∀ p ∈ ps, p.number < Width.bits64) ∧
        total ps < Width.bits64 * nanosPerSecond ∧
        d.seconds * nanosPerSecond + d.subsecond = total ps) ∧
    (∀ ps qs : List Part, (∀ p ∈ ps, p.IsWellFormed) → (∀ q ∈ qs, q.IsWellFormed) →
      written ps = written qs → ps = qs) ∧
    (∀ d, readSpan raw = .ok d → d.seconds < Width.bits64 ∧ d.subsecond < nanosPerSecond) ∧
    ∀ f, readSpan raw = .error f → f.kind = .invalidDuration raw := by
  have hzero : zero.Fits := by decide
  have hsplit : ∀ d : Span, d.seconds * nanosPerSecond + d.subsecond = d.nanos := fun d =>
    Nat.div_add_mod' d.nanos nanosPerSecond
  have hreads : ∀ d, readSpan raw = .ok d ↔
      ∃ ps : List Part, ps ≠ [] ∧ (∀ p ∈ ps, p.IsWellFormed) ∧
        Text.trim raw.toList = written ps ∧ (∀ p ∈ ps, p.number < Width.bits64) ∧
        total ps < Width.bits64 * nanosPerSecond ∧
        d.seconds * nanosPerSecond + d.subsecond = total ps := by
    intro d
    rw [readSpan_ok, ofText_ok, hsplit]
    constructor
    · rintro ⟨hne, hstray, hsum⟩
      have hnone : ∀ c ∈ ([] : List Char), c.isDigit = true := nofun
      obtain ⟨ps, hps, htext⟩ : IsWritten (Text.trim raw.toList) := exists_written hnone hstray
      rw [htext, pieces_written hps] at hne hsum
      obtain ⟨hnumbers, hlimit, hd⟩ := (sum_parts hzero).mp hsum
      rw [show zero.nanos = 0 from rfl, Nat.zero_add] at hlimit hd
      exact ⟨ps, fun h => hne (h ▸ rfl), hps, htext, hnumbers, hlimit, hd⟩
    · rintro ⟨ps, hne, hps, htext, hnumbers, hlimit, hd⟩
      rw [htext, pieces_written hps]
      refine ⟨fun h => hne (List.map_eq_nil_iff.mp h), ?_, (sum_parts hzero).mpr ?_⟩
      · intro hstray
        obtain ⟨p, -, hp⟩ := List.mem_map.mp hstray
        cases hp
      · rw [show zero.nanos = 0 from rfl, Nat.zero_add]
        exact ⟨hnumbers, hlimit, hd⟩
  refine ⟨hreads, fun ps qs => written_injective, fun d hd => ?_, fun f => kind_readSpan⟩
  obtain ⟨ps, -, -, -, -, hlimit, hsum⟩ := (hreads d).mp hd
  rw [hsplit] at hsum
  exact ⟨seconds_lt_of_fits (hsum ▸ hlimit : d.nanos < limit),
    Nat.mod_lt d.nanos (by decide)⟩

/-- A text between blanks whose numbers and whose sum are close to what 64 bits hold. -/
def longest : String := "\u2003018446744073709551615s999ms\r\n"

theorem span_iff_written_longest :
    readSpan longest = .ok ⟨18446744073709551615999000000⟩ ∧
      (⟨18446744073709551615999000000⟩ : Span).seconds < Width.bits64 := by
  have hread : readSpan longest = .ok ⟨18446744073709551615999000000⟩ := by
    refine ((span_iff_written longest).1 _).mpr
      ⟨[⟨"018446744073709551615".toList, .seconds⟩, ⟨"999".toList, .millis⟩], ?_⟩
    decide
  exact ⟨hread, ((span_iff_written longest).2.2.1 _ hread).1⟩

end RingKeeper.Span
