import Mathlib.Data.List.TakeWhile
import RingKeeper.Text.Blank
import RingKeeper.Text.Lines
import RingKeeper.Text.Number

/-!
# Blanks around a text, the lines of a text, and the values that texts stand for

1. Trimming takes away blanks at the two ends, and nothing else (`exists_trim`), and it leaves none
   there (`isTrimmed_trim`).
2. `lines_append` takes the first line off a text whose line ends with a line feed, and `closeLine`
   is what is left of that line (`closeLine_return`, `closeLine_bare`). `lines_append_lines` puts
   texts together whose lines all end so.
3. `naturalBelow_ok` says which texts are numbers below a bound: the numerals (`IsNumeral`) of such
   numbers. `truthValue_ok` says it of truth values.
-/

namespace RingKeeper.Text

/-! ## Blanks -/

/-- Every character of the text is blank. -/
def Blanks (s : List Char) : Prop := ∀ c ∈ s, isBlank c = true

-- The instances go through the text; there is another one that would go through all characters.
instance (s : List Char) : Decidable (Blanks s) :=
  List.decidableBAll (fun c => isBlank c = true) s

/-- The text does not begin with a blank. -/
def BeginsBare (s : List Char) : Prop := ∀ c ∈ s.head?, isBlank c = false

instance (s : List Char) : Decidable (BeginsBare s) :=
  Option.decidableForallMem (p := fun c => isBlank c = false) s.head?

/-- The text has a blank at neither end. -/
def IsTrimmed (s : List Char) : Prop := BeginsBare s ∧ BeginsBare s.reverse

instance (s : List Char) : Decidable (IsTrimmed s) :=
  inferInstanceAs (Decidable (BeginsBare s ∧ BeginsBare s.reverse))

variable {s t w lead trail : List Char} {c : Char}

theorem Blanks.append (hs : Blanks s) (ht : Blanks t) : Blanks (s ++ t) := by
  intro c hc
  rcases List.mem_append.mp hc with hc | hc
  · exact hs c hc
  · exact ht c hc

theorem Blanks.reverse (hs : Blanks s) : Blanks s.reverse := by
  intro c hc
  exact hs c (List.mem_reverse.mp hc)

@[simp] theorem beginsBare_nil : BeginsBare [] := by
  intro c hc
  cases hc

@[simp] theorem beginsBare_cons : BeginsBare (c :: s) ↔ isBlank c = false := by
  simp [BeginsBare]

theorem beginsBare_skipBlanks (s : List Char) : BeginsBare (skipBlanks s) := by
  intro c hc
  have h := List.head?_dropWhile_not isBlank s
  rw [show (s.dropWhile isBlank).head? = some c from hc] at h
  exact h

theorem skipBlanks_append (hw : Blanks w) (s : List Char) :
    skipBlanks (w ++ s) = skipBlanks s :=
  List.dropWhile_append_of_pos hw

theorem skipBlanks_eq_self (hs : BeginsBare s) : skipBlanks s = s := by
  cases s with
  | nil => rfl
  | cons c s => simp [skipBlanks_cons, beginsBare_cons.mp hs]

theorem skipBlanks_eq_nil : skipBlanks s = [] ↔ Blanks s := List.dropWhile_eq_nil_iff

theorem exists_skipBlanks (s : List Char) : ∃ w, Blanks w ∧ s = w ++ skipBlanks s :=
  ⟨s.takeWhile isBlank, fun _ hc => List.mem_takeWhile_imp hc,
    List.takeWhile_append_dropWhile.symm⟩

/-! ## Trimming -/

theorem trimEnd_eq (s : List Char) : trimEnd s = (skipBlanks s.reverse).reverse := rfl

theorem trimEnd_append (hw : Blanks w) (s : List Char) : trimEnd (s ++ w) = trimEnd s := by
  rw [trimEnd_eq, List.reverse_append, skipBlanks_append hw.reverse, trimEnd_eq]

theorem exists_trimEnd (s : List Char) : ∃ w, Blanks w ∧ s = trimEnd s ++ w := by
  obtain ⟨w, hw, hs⟩ := exists_skipBlanks s.reverse
  refine ⟨w.reverse, hw.reverse, ?_⟩
  rw [trimEnd_eq, ← List.reverse_append, ← hs, List.reverse_reverse]

/-- What trimming leaves is all of the text but the blanks at its ends. -/
theorem trim_append (hlead : Blanks lead) (ht : IsTrimmed t) (htrail : Blanks trail) :
    trim (lead ++ (t ++ trail)) = t := by
  unfold trim
  rw [skipBlanks_append hlead]
  by_cases hnil : t = []
  · subst hnil
    rw [List.nil_append, skipBlanks_eq_nil.mpr htrail]
    rfl
  · have hbare : BeginsBare (t ++ trail) := by
      obtain ⟨c, u, rfl⟩ := List.exists_cons_of_ne_nil hnil
      exact beginsBare_cons.mpr (beginsBare_cons.mp ht.1)
    rw [skipBlanks_eq_self hbare, trimEnd_append htrail, trimEnd_eq, skipBlanks_eq_self ht.2,
      List.reverse_reverse]

theorem isTrimmed_trim (s : List Char) : IsTrimmed (trim s) := by
  constructor
  · obtain ⟨w, -, hs⟩ := exists_trimEnd (skipBlanks s)
    have hbare := beginsBare_skipBlanks s
    rw [hs] at hbare
    show BeginsBare (trimEnd (skipBlanks s))
    cases htrim : trimEnd (skipBlanks s) with
    | nil => exact beginsBare_nil
    | cons c t =>
      rw [htrim] at hbare
      exact beginsBare_cons.mpr (beginsBare_cons.mp hbare)
  · show BeginsBare (trimEnd (skipBlanks s)).reverse
    rw [trimEnd_eq, List.reverse_reverse]
    exact beginsBare_skipBlanks _

theorem exists_trim (s : List Char) :
    ∃ lead trail, Blanks lead ∧ Blanks trail ∧ s = lead ++ (trim s ++ trail) := by
  obtain ⟨lead, hlead, hs⟩ := exists_skipBlanks s
  obtain ⟨trail, htrail, hskip⟩ := exists_trimEnd (skipBlanks s)
  refine ⟨lead, trail, hlead, htrail, ?_⟩
  show s = lead ++ (trimEnd (skipBlanks s) ++ trail)
  rw [← hskip]
  exact hs

theorem trim_eq_nil : trim s = [] ↔ Blanks s := by
  constructor
  · intro h
    obtain ⟨lead, trail, hlead, htrail, hs⟩ := exists_trim s
    rw [h, List.nil_append] at hs
    exact hs ▸ hlead.append htrail
  · intro h
    unfold trim
    rw [skipBlanks_eq_nil.mpr h]
    rfl

/-! ## Lines -/

theorem linesFrom_append (begun : List Char) {line : List Char} (h : '\n' ∉ line) (s : List Char) :
    linesFrom begun (line ++ '\n' :: s) = closeLine (line.reverse ++ begun) :: lines s := by
  induction line generalizing begun with
  | nil => simp [linesFrom, lines]
  | cons c line ih =>
    have hc : c ≠ '\n' := fun hc => h (hc ▸ List.mem_cons_self)
    have hline : '\n' ∉ line := fun hmem => h (List.mem_cons_of_mem c hmem)
    rw [List.cons_append, linesFrom, if_neg hc, ih (c :: begun) hline]
    simp

/-- The first line ends at the first line feed. -/
theorem lines_append {line : List Char} (h : '\n' ∉ line) (s : List Char) :
    lines (line ++ '\n' :: s) = closeLine line.reverse :: lines s := by
  have hfrom := linesFrom_append [] h s
  rwa [List.append_nil] at hfrom

theorem linesFrom_lineFeed (begun s t : List Char) :
    linesFrom begun (s ++ '\n' :: t) = linesFrom begun (s ++ ['\n']) ++ lines t := by
  induction s generalizing begun with
  | nil => simp [linesFrom, lines]
  | cons c s ih =>
    rw [List.cons_append, List.cons_append, linesFrom, linesFrom]
    split
    · rw [ih [], List.cons_append]
    · exact ih (c :: begun)

/-- A text whose last line has its line end does not mix its lines with those that follow. -/
theorem lines_append_lines (h : s = [] ∨ s.getLast? = some '\n') (t : List Char) :
    lines (s ++ t) = lines s ++ lines t := by
  rcases h with rfl | h
  · rfl
  · obtain ⟨front, rfl⟩ := List.getLast?_eq_some_iff.mp h
    rw [List.append_assoc]
    exact linesFrom_lineFeed [] front t

/-- A carriage return at the end of a line belongs to the line end. -/
theorem closeLine_return (line : List Char) : closeLine (line ++ ['\r']).reverse = line := by
  simp [closeLine]

theorem closeLine_bare {line : List Char} (h : line.getLast? ≠ some '\r') :
    closeLine line.reverse = line := by
  rw [closeLine]
  · exact List.reverse_reverse line
  · intro t ht
    have hlast : line.getLast? = (line.reverse).head? := by simp
    rw [hlast, ht] at h
    exact h rfl

/-- A line is what is left of it, or has a carriage return more. -/
theorem closeLine_cases (line : List Char) :
    line = closeLine line.reverse ∨ line = closeLine line.reverse ++ ['\r'] := by
  by_cases h : line.getLast? = some '\r'
  · obtain ⟨t, rfl⟩ := List.getLast?_eq_some_iff.mp h
    exact Or.inr (by rw [closeLine_return])
  · exact Or.inl (closeLine_bare h).symm

/-! ## Numbers and truth values -/

/-- The text is one digit or more, and nothing else, and as a decimal number they are this one. -/
def AreDigits (s : List Char) (n : Nat) : Prop :=
  s ≠ [] ∧ (∀ c ∈ s, c.isDigit = true) ∧ Nat.ofDigitChars 10 s 0 = n

/-- The text is this number in digits, perhaps with a plus sign before them. -/
def IsNumeral (s : List Char) (n : Nat) : Prop :=
  AreDigits s n ∨ ∃ t, s = '+' :: t ∧ AreDigits t n

variable {bound m n : Nat}

/-- Further digits make a number no smaller. -/
theorem le_ofDigitChars (n : Nat) (s : List Char) : n ≤ Nat.ofDigitChars 10 s n := by
  rw [Nat.ofDigitChars_eq_ofDigitChars_zero]
  exact Nat.le_add_right_of_le (Nat.le_mul_of_pos_left n (Nat.pow_pos (by decide)))

/-- The bound is met by each number on the way exactly if the last one meets it. -/
theorem digitsBelow_ok (hm : m < bound) : digitsBelow bound m s = .ok n ↔
    (∀ c ∈ s, c.isDigit = true) ∧ Nat.ofDigitChars 10 s m = n ∧ n < bound := by
  induction s generalizing m with
  | nil =>
    constructor
    · rintro ⟨⟩
      exact ⟨List.forall_mem_nil _, rfl, hm⟩
    · rintro ⟨-, rfl, -⟩
      rfl
  | cons c s ih =>
    rw [digitsBelow, List.forall_mem_cons, Nat.ofDigitChars_cons]
    dsimp only
    by_cases hc : c.isDigit = true
    · rw [if_neg (by simp [hc]), and_iff_right hc]
      by_cases hnext : 10 * m + (c.toNat - '0'.toNat) < bound
      · rw [if_pos hnext, ih hnext]
      · rw [if_neg hnext]
        constructor
        · intro h
          cases h
        · rintro ⟨-, rfl, hn⟩
          exact absurd (Nat.lt_of_le_of_lt (le_ofDigitChars _ s) hn) hnext
    · rw [if_pos (by simp [hc])]
      constructor
      · intro h
        cases h
      · intro h
        exact absurd h.1.1 hc

theorem naturalBelow_ok (hbound : 0 < bound) :
    naturalBelow bound s = .ok n ↔ IsNumeral s n ∧ n < bound := by
  have hdigits {t : List Char} (ht : t ≠ []) :
      digitsBelow bound 0 t = .ok n ↔ AreDigits t n ∧ n < bound := by
    rw [digitsBelow_ok hbound, AreDigits, and_iff_right ht, and_assoc]
  have hsign {t : List Char} : ¬ AreDigits ('+' :: t) n := fun h =>
    absurd (h.2.1 '+' List.mem_cons_self) (by decide)
  unfold naturalBelow
  split
  · simp [IsNumeral, AreDigits]
  · simp [IsNumeral, AreDigits]
  · rename_i t ht
    rw [hdigits (fun h => ht (by rw [h])), IsNumeral, or_iff_right hsign]
    simp
  · rename_i hnil _ hplus
    have hbare : ¬ ∃ t, s = '+' :: t ∧ AreDigits t n := fun ⟨t, ht, _⟩ => hplus t ht
    rw [hdigits hnil, IsNumeral, or_iff_left hbare]

theorem truthValue_ok {text : String} {b : Bool} :
    truthValue text = .ok b ↔ text = if b then "true" else "false" := by
  unfold truthValue
  by_cases htrue : text = "true"
  · subst htrue
    cases b <;> decide
  · by_cases hfalse : text = "false"
    · subst hfalse
      cases b <;> decide
    · cases b <;> simp [htrue, hfalse]

end RingKeeper.Text
