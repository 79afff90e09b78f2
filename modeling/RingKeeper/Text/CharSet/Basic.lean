/-!
# Sets of characters

A set of characters is given by ranges of code points, which may touch or overlap and come in any
order. The gaps between the ranges in ascending order are the rest of the set, and the rest of the
rest is the set in its normal form: ascending ranges with gaps between them.
Main statement: the rest of a set has the code points that the set has not (`contains_rest`).
-/

namespace RingKeeper.Text

/-- The code points from the first to the last one. -/
structure CharRange where
  first : Nat
  last : Nat
deriving DecidableEq, Repr

namespace CharRange

def contains (r : CharRange) (n : Nat) : Bool := decide (r.first ≤ n) && decide (n ≤ r.last)

/-- Whether a range begins no later than another one. -/
def beginsBy (r s : CharRange) : Bool := decide (r.first ≤ s.first)

end CharRange

structure CharSet where
  ranges : List CharRange
deriving DecidableEq, Repr

namespace CharSet

/-- Whether the set has this code point. -/
def contains (s : CharSet) (n : Nat) : Bool := s.ranges.any (·.contains n)

def holds (s : CharSet) (c : Char) : Bool := s.contains c.toNat

def empty : CharSet := ⟨[]⟩

def single (n : Nat) : CharSet := ⟨[⟨n, n⟩]⟩

def between (first last : Nat) : CharSet := ⟨[⟨first, last⟩]⟩

/-- The greatest code point. -/
def lastCode : Nat := 0x10FFFF

/-- All code points. -/
def all : CharSet := between 0 lastCode

def union (s t : CharSet) : CharSet := ⟨s.ranges ++ t.ranges⟩

/-- What is in one of the sets. -/
def unions (ss : List CharSet) : CharSet := ⟨ss.flatMap ranges⟩

/-- A range of code points, unless there are none in it. -/
def range (first last : Nat) : List CharRange :=
  if first ≤ last then [⟨first, last⟩] else []

/-- The code points from a start on that are in none of these ascending ranges. -/
def gaps (start : Nat) : List CharRange → List CharRange
  | [] => range start lastCode
  | r :: rs =>
    if start < r.first then
      range start (min (r.first - 1) lastCode) ++ gaps (max start (r.last + 1)) rs
    else gaps (max start (r.last + 1)) rs

/-- The code points that the set has not. -/
def rest (s : CharSet) : CharSet := ⟨gaps 0 (s.ranges.mergeSort CharRange.beginsBy)⟩

/-- The same set by ascending ranges with gaps between them. -/
def normal (s : CharSet) : CharSet := s.rest.rest

def diff (s t : CharSet) : CharSet := (s.rest.union t).rest

def inter (s t : CharSet) : CharSet := (s.rest.union t.rest).rest

/-- What is in one of the sets and not in both. -/
def symmDiff (s t : CharSet) : CharSet := (s.diff t).union (t.diff s)

@[simp] theorem contains_union (s t : CharSet) (n : Nat) :
    (s.union t).contains n = (s.contains n || t.contains n) := by
  simp [union, contains]

theorem any_range (first last n : Nat) :
    (range first last).any (·.contains n) = (decide (first ≤ n) && decide (n ≤ last)) := by
  unfold range CharRange.contains
  rw [Bool.eq_iff_iff]
  split
  · simp
  · simp
    omega

/-- A code point is in a gap when it is in none of the ranges. -/
theorem any_gaps (n : Nat) (rs : List CharRange) (start : Nat)
    (ascending : rs.Pairwise fun r s => r.beginsBy s = true) :
    (gaps start rs).any (·.contains n)
      = (decide (start ≤ n) && decide (n ≤ lastCode) && !rs.any (·.contains n)) := by
  induction rs generalizing start with
  | nil => simp [gaps, any_range]
  | cons r rs ih =>
    obtain ⟨later, ascending⟩ := List.pairwise_cons.1 ascending
    have none (h : n < r.first) : rs.any (·.contains n) = false := by
      rw [List.any_eq_false]
      intro s hs
      have := later s hs
      simp only [CharRange.beginsBy, decide_eq_true_eq] at this
      simp only [CharRange.contains, Bool.and_eq_true, decide_eq_true_eq]
      omega
    unfold gaps
    split
    · rw [List.any_append, any_range, ih _ ascending, List.any_cons]
      by_cases h : n < r.first
      · rw [none h, Bool.eq_iff_iff]
        simp [CharRange.contains]
        omega
      · cases rs.any (·.contains n) <;>
        · rw [Bool.eq_iff_iff]
          simp [CharRange.contains]
          omega
    · rw [ih _ ascending, List.any_cons]
      cases rs.any (·.contains n) with
      | true => simp
      | false =>
        rw [Bool.eq_iff_iff]
        simp [CharRange.contains]
        omega

/-- The rest of a set has the code points that the set has not. -/
@[simp] theorem contains_rest (s : CharSet) (n : Nat) :
    s.rest.contains n = (decide (n ≤ lastCode) && !s.contains n) := by
  have ascending : (s.ranges.mergeSort CharRange.beginsBy).Pairwise fun r t => r.beginsBy t = true :=
    List.pairwise_mergeSort
      (fun a b c => by simp only [CharRange.beginsBy, decide_eq_true_eq]; omega)
      (fun a b => by simp only [CharRange.beginsBy, Bool.or_eq_true, decide_eq_true_eq]; omega)
      s.ranges
  have same : (s.ranges.mergeSort CharRange.beginsBy).any (·.contains n) = s.ranges.any (·.contains n) :=
    (List.mergeSort_perm s.ranges CharRange.beginsBy).any_eq
  simp only [rest, contains, any_gaps n _ 0 ascending, same]
  simp

@[simp] theorem contains_normal (s : CharSet) (n : Nat) :
    s.normal.contains n = (decide (n ≤ lastCode) && s.contains n) := by
  simp only [normal, contains_rest]
  cases decide (n ≤ lastCode) <;> simp

@[simp] theorem contains_diff (s t : CharSet) (n : Nat) :
    (s.diff t).contains n = (decide (n ≤ lastCode) && s.contains n && !t.contains n) := by
  simp only [diff, contains_rest, contains_union]
  cases decide (n ≤ lastCode) <;> simp

@[simp] theorem contains_inter (s t : CharSet) (n : Nat) :
    (s.inter t).contains n = (decide (n ≤ lastCode) && s.contains n && t.contains n) := by
  simp only [inter, contains_rest, contains_union]
  cases decide (n ≤ lastCode) <;> simp

example : normal ⟨[⟨5, 9⟩, ⟨1, 2⟩, ⟨3, 6⟩]⟩ = ⟨[⟨1, 9⟩]⟩ := by cbv

end CharSet

end RingKeeper.Text
