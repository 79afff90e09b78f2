import Mathlib.Data.Nat.Digits.Defs
import RingKeeper.Proofs.Text
import RingKeeper.Timestamp

/-!
# Timestamps are read as they are written

1. `number?_append` and `field?_padded` read a number in front of anything that is not a digit, and
   `year?_yearText` reads a year in all its three forms.
2. `ofText?_text`: the written form of a point in time gives this point again, provided that there
   is such a day and such a time of day (`Timestamp.IsPoint`), which holds of every point that was
   read (`isPoint_of_ofText?`).
-/

namespace RingKeeper.Timestamp

open Text

/-- The day is in the calendar, and the time is one of the day; a second may be a leap second. -/
structure IsPoint (t : Timestamp) : Prop where
  date : t.date.isInCalendar = true
  minute : t.minute < minutesPerDay
  second : t.second ≤ 60

/-- The text does not begin with a digit. -/
def EndsNumber (s : List Char) : Prop := ∀ c ∈ s.head?, c.isDigit = false

variable {ds s : List Char} {c : Char} {digits most n : Nat} {t : Timestamp}

theorem endsNumber_cons : EndsNumber (c :: s) ↔ c.isDigit = false := by
  simp [EndsNumber]

/-! ## Digits -/

theorem isBlank_of_isDigit (hc : c.isDigit = true) : isBlank c = false := by
  have hrange : 48 ≤ c.toNat ∧ c.toNat ≤ 57 := by
    simpa [Char.isDigit, UInt32.le_iff_toNat_le] using hc
  simp only [isBlank, blankRanges, List.any_cons, List.any_nil]
  simp
  omega

theorem toList_padded (digits n : Nat) : (padded digits n).toList =
    List.replicate (digits - (Nat.toDigits 10 n).length) '0' ++ Nat.toDigits 10 n := by
  have hlength : n.repr.length = (Nat.toDigits 10 n).length := by
    rw [← String.length_toList, Nat.toList_repr]
  simp [padded, hlength, Nat.toList_repr]

theorem isDigit_of_mem_padded (hc : c ∈ (padded digits n).toList) : c.isDigit = true := by
  rw [toList_padded, List.mem_append] at hc
  rcases hc with hc | hc
  · rw [List.eq_of_mem_replicate hc]
    rfl
  · exact Nat.isDigit_of_mem_toDigits (by decide) (by decide) hc

theorem ofDigitChars_padded : Nat.ofDigitChars 10 (padded digits n).toList 0 = n := by
  rw [toList_padded, Nat.ofDigitChars_append, Nat.ofDigitChars_replicate_zero, Nat.mul_zero,
    Nat.ofDigitChars_ten_toDigits]

theorem padded_ne_nil (digits n : Nat) : (padded digits n).toList ≠ [] := by
  rw [toList_padded]
  exact List.append_ne_nil_of_right_ne_nil _ Nat.toDigits_ne_nil

theorem length_padded_le (hdigits : 0 < digits) (hn : n < 10 ^ digits) :
    (padded digits n).toList.length ≤ digits := by
  have hlength := (Nat.length_toDigits_le_iff (by decide) hdigits).mpr hn
  rw [toList_padded, List.length_append, List.length_replicate]
  omega

/-! ## Reading numbers -/

theorem number?_append (hne : ds ≠ []) (hds : ∀ c ∈ ds, c.isDigit = true)
    (hmost : ds.length ≤ most) (hs : EndsNumber s) :
    number? most (ds ++ s) = some (Nat.ofDigitChars 10 ds 0, s) := by
  have hnone : s.takeWhile Char.isDigit = [] := by
    cases s with
    | nil => rfl
    | cons c s => rw [List.takeWhile_cons_of_neg (by simp [endsNumber_cons.mp hs])]
  have htake : ((ds ++ s).takeWhile Char.isDigit).take most = ds := by
    rw [List.takeWhile_append_of_pos hds, hnone, List.append_nil, List.take_of_length_le hmost]
  obtain ⟨c, w, hcons⟩ := List.exists_cons_of_ne_nil hne
  unfold number?
  rw [htake, hcons]
  show some (Nat.ofDigitChars 10 (c :: w) 0, List.drop (c :: w).length (c :: w ++ s)) = _
  rw [List.drop_left]

theorem field?_padded (hn : n < 100) (hs : EndsNumber s) :
    field? ((padded 2 n).toList ++ s) = some (n, s) := by
  have hdigits : ∀ c ∈ (padded 2 n).toList, c.isDigit = true := fun c => isDigit_of_mem_padded
  have hbare : BeginsBare ((padded 2 n).toList ++ s) := by
    obtain ⟨c, w, hcons⟩ := List.exists_cons_of_ne_nil (padded_ne_nil 2 n)
    rw [hcons] at hdigits ⊢
    exact beginsBare_cons.mpr (isBlank_of_isDigit (hdigits c List.mem_cons_self))
  unfold field?
  rw [skipBlanks_eq_self hbare,
    number?_append (padded_ne_nil 2 n) hdigits (length_padded_le (by decide) hn) hs,
    ofDigitChars_padded]

theorem behind?_cons (hc : isBlank c = false) : behind? c (c :: s) = some s := by
  have hskip : skipBlanks (c :: s) = c :: s := skipBlanks_eq_self (beginsBare_cons.mpr hc)
  unfold behind?
  rw [hskip]
  exact if_pos rfl

theorem year?_minus (s : List Char) :
    year? ('-' :: s) = (number? s.length s).map fun r => (-(r.1 : Int), r.2) := rfl

theorem year?_plus (s : List Char) :
    year? ('+' :: s) = (number? s.length s).map fun r => ((r.1 : Int), r.2) := rfl

/-- Without a sign a year has four digits at most. -/
theorem year?_of_isDigit (hc : c.isDigit = true) :
    year? (c :: s) = (number? 4 (c :: s)).map fun r => ((r.1 : Int), r.2) := by
  unfold year?
  split
  · rename_i heq
    cases heq
    cases hc
  · rename_i heq
    cases heq
    cases hc
  · rfl

theorem year?_yearText (year : Int) (hs : EndsNumber s) :
    year? ((yearText year).toList ++ s) = some (year, s) := by
  have hnumber : ∀ most, (padded 4 year.natAbs).toList.length ≤ most →
      number? most ((padded 4 year.natAbs).toList ++ s) = some (year.natAbs, s) := by
    intro most hmost
    rw [number?_append (padded_ne_nil _ _) (fun c => isDigit_of_mem_padded) hmost hs,
      ofDigitChars_padded]
  have hlength : (padded 4 year.natAbs).toList.length ≤
      ((padded 4 year.natAbs).toList ++ s).length := by
    rw [List.length_append]
    omega
  unfold yearText
  by_cases hneg : year < 0
  · have habs : -(year.natAbs : Int) = year := by omega
    have hsign : "-".toList = ['-'] := rfl
    simp only [if_pos hneg, String.toList_append, hsign, List.cons_append, List.nil_append]
    rw [year?_minus, hnumber _ hlength, Option.map_some, habs]
  · have habs : (year.natAbs : Int) = year := by omega
    by_cases hlarge : 9999 < year
    · have hsign : "+".toList = ['+'] := rfl
      simp only [if_neg hneg, if_pos hlarge, String.toList_append, hsign, List.cons_append,
        List.nil_append]
      rw [year?_plus, hnumber _ hlength, Option.map_some, habs]
    · simp only [if_neg hneg, if_neg hlarge]
      obtain ⟨c, w, hcons⟩ :=
        List.exists_cons_of_ne_nil (padded_ne_nil 4 year.natAbs)
      have hc : c.isDigit = true := isDigit_of_mem_padded (hcons ▸ List.mem_cons_self)
      have hfour := hnumber 4 (length_padded_le (by decide) (by omega))
      rw [hcons] at hfour ⊢
      rw [List.cons_append, year?_of_isDigit hc, ← List.cons_append, hfour, Option.map_some, habs]

/-! ## Points in time -/

theorem beginsBare_yearText (year : Int) (s : List Char) :
    BeginsBare ((yearText year).toList ++ s) := by
  have hpadded : BeginsBare ((padded 4 year.natAbs).toList ++ s) := by
    obtain ⟨c, w, hcons⟩ :=
      List.exists_cons_of_ne_nil (padded_ne_nil 4 year.natAbs)
    have hc : c.isDigit = true := isDigit_of_mem_padded (hcons ▸ List.mem_cons_self)
    rw [hcons]
    exact beginsBare_cons.mpr (isBlank_of_isDigit hc)
  unfold yearText
  dsimp only
  split
  · rw [String.toList_append]
    exact beginsBare_cons.mpr (by decide)
  · split
    · rw [String.toList_append]
      exact beginsBare_cons.mpr (by decide)
    · exact hpadded

theorem isInCalendar_bounds {d : Date} (h : d.isInCalendar = true) :
    d.month < 100 ∧ d.day < 100 := by
  have hdays : d.day ≤ Date.daysOf d.year d.month ∧ 1 ≤ d.day := by
    simp only [Date.isInCalendar, Bool.and_eq_true, decide_eq_true_eq] at h
    exact ⟨h.1.1.2, h.1.1.1⟩
  have hmonth : Date.daysOf d.year d.month ≤ 31 ∧
      (12 < d.month → Date.daysOf d.year d.month = 0) := by
    unfold Date.daysOf
    split <;> first | omega | (split <;> omega)
  omega

theorem date?_text (h : t.date.isInCalendar = true) (hs : EndsNumber s) :
    date? ((yearText t.date.year).toList ++ '-' :: ((padded 2 t.date.month).toList ++
      '-' :: ((padded 2 t.date.day).toList ++ s))) = some (t.date, s) := by
  obtain ⟨hmonth, hday⟩ := isInCalendar_bounds h
  have hdash : ∀ u, EndsNumber ('-' :: u) := fun u => endsNumber_cons.mpr (by decide)
  have hbehind : ∀ u, behind? '-' ('-' :: u) = some u := fun u => behind?_cons (by decide)
  simp [date?, skipBlanks_eq_self (beginsBare_yearText _ _), year?_yearText _ (hdash _), hbehind,
    field?_padded hmonth (hdash _), field?_padded hday hs]

theorem clock?_text {hour minute second : Nat} (hhour : hour < 24) (hminute : minute < 60)
    (hsecond : second ≤ 60) :
    clock? ((padded 2 hour).toList ++ ':' :: ((padded 2 minute).toList ++
      ':' :: ((padded 2 second).toList ++ ['Z']))) = some ((hour, minute, second), ['Z']) := by
  have hcolon : ∀ u, EndsNumber (':' :: u) := fun u => endsNumber_cons.mpr (by decide)
  have hbehind : ∀ u, behind? ':' (':' :: u) = some u := fun u => behind?_cons (by decide)
  have hzone : EndsNumber ['Z'] ∧ skipBlanks ['Z'] = ['Z'] :=
    ⟨endsNumber_cons.mpr (by decide), by decide⟩
  have hfield : ∀ n, n < 100 → ∀ u, field? ((padded 2 n).toList ++ ':' :: u) = some (n, ':' :: u) :=
    fun n hn u => field?_padded hn (hcolon u)
  simp [clock?, hfield hour (by omega), hfield minute (by omega), hbehind,
    field?_padded (show second < 100 by omega) hzone.1, skipFraction?, hzone.2, hhour, hminute,
    hsecond]

theorem ofLocal_universal (date : Date) {minute : Nat} (second : Nat) (h : minute < minutesPerDay) :
    ofLocal date minute second 0 = ⟨date, minute, second⟩ := by
  unfold minutesPerDay at h
  have hnonneg : ¬ (minute : Int) - 0 < 0 := by omega
  have hlt : (minute : Int) - 0 < (1440 : Nat) := by omega
  have hmod : ((minute : Int) - 0) % (1440 : Nat) = minute := by omega
  unfold ofLocal minutesPerDay
  dsimp only
  rw [if_neg hnonneg, if_pos hlt, hmod, Int.toNat_natCast]

theorem isPoint_ofLocal {date : Date} {minute second : Nat} {offset : Int} (hsecond : second ≤ 60)
    (hdate : (ofLocal date minute second offset).date.isInCalendar = true) :
    (ofLocal date minute second offset).IsPoint := by
  refine ⟨hdate, ?_, hsecond⟩
  show (((minute : Int) - offset) % (minutesPerDay : Nat)).toNat < minutesPerDay
  unfold minutesPerDay
  omega

theorem second_le_of_clock? {hour minute second : Nat}
    (h : clock? s = some ((hour, minute, second), ds)) : second ≤ 60 := by
  simp only [clock?, Option.bind_eq_bind, Option.bind_eq_some_iff, Prod.exists] at h
  obtain ⟨_, _, -, _, -, _, _, -, _, -, _, _, -, _, -, h⟩ := h
  split at h
  · rename_i hbounds
    cases h
    exact hbounds.2.2
  · cases h

theorem isPoint_of_ofText? {text : String} (h : ofText? text = some t) : t.IsPoint := by
  simp only [ofText?, Option.bind_eq_bind, Option.bind_eq_some_iff, Prod.exists] at h
  obtain ⟨date, s, -, h⟩ := h
  split at h
  · split at h
    · simp only [Option.bind_eq_some_iff, Prod.exists] at h
      obtain ⟨hour, minute, second, _, hclock, offset, _, -, h⟩ := h
      split at h
      · rename_i hdates
        cases h
        simp only [Bool.and_eq_true] at hdates
        exact isPoint_ofLocal (second_le_of_clock? hclock) hdates.1.2
      · cases h
    · cases h
  · cases h

/-- A point in time is read as it is written. -/
theorem ofText?_text (h : t.IsPoint) : ofText? t.text = some t := by
  have hminute : t.minute < 1440 := h.minute
  have htext : t.text.toList = (yearText t.date.year).toList ++ '-' ::
      ((padded 2 t.date.month).toList ++ '-' :: ((padded 2 t.date.day).toList ++ 'T' ::
        ((padded 2 (t.minute / 60)).toList ++ ':' :: ((padded 2 (t.minute % 60)).toList ++
          ':' :: ((padded 2 t.second).toList ++ ['Z']))))) := by
    simp [text]
  have hdate := date?_text h.date (s := 'T' :: ((padded 2 (t.minute / 60)).toList ++
    ':' :: ((padded 2 (t.minute % 60)).toList ++ ':' :: ((padded 2 t.second).toList ++ ['Z']))))
    (endsNumber_cons.mpr (by decide))
  have hhour : t.minute / 60 < 24 := by omega
  have hclock := clock?_text hhour (Nat.mod_lt t.minute (by decide)) h.second
  have hlocal := ofLocal_universal t.date t.second h.minute
  have hsplit : 60 * (t.minute / 60) + t.minute % 60 = t.minute := Nat.div_add_mod t.minute 60
  unfold ofText?
  rw [htext, hdate]
  simp [hclock, zone?, hsplit, hlocal, h.date]

end RingKeeper.Timestamp
