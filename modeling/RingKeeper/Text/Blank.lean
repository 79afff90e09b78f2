/-!
# Blank characters

A character is blank when it has the Unicode property White_Space. Columns of the ring table are
separated by blanks, and names, credentials and time spans are trimmed of them.
-/

namespace RingKeeper.Text

/-- The 25 code points with the property White_Space, as closed ranges in ascending order. -/
def blankRanges : List (Nat × Nat) :=
  [(0x09, 0x0D), (0x20, 0x20), (0x85, 0x85), (0xA0, 0xA0), (0x1680, 0x1680), (0x2000, 0x200A),
   (0x2028, 0x2029), (0x202F, 0x202F), (0x205F, 0x205F), (0x3000, 0x3000)]

def isBlank (c : Char) : Bool :=
  blankRanges.any fun r => decide (r.1 ≤ c.toNat) && decide (c.toNat ≤ r.2)

example : isBlank ' ' = true ∧ isBlank '\t' = true ∧ isBlank '\u00a0' = true := by decide
example : isBlank 'a' = false ∧ isBlank '\u200b' = false := by decide

/-- The text from its first character that is not blank. -/
def skipBlanks (s : List Char) : List Char := s.dropWhile isBlank

/-- The text up to its last character that is not blank. -/
def trimEnd (s : List Char) : List Char := (s.reverse.dropWhile isBlank).reverse

/-- The text without the blanks at its two ends. -/
def trim (s : List Char) : List Char := trimEnd (skipBlanks s)

@[simp] theorem skipBlanks_nil : skipBlanks [] = [] := rfl

theorem skipBlanks_cons (c : Char) (s : List Char) :
    skipBlanks (c :: s) = if isBlank c then skipBlanks s else c :: s := by
  simp [skipBlanks, List.dropWhile_cons]

example : trim " a b\t".toList = "a b".toList := by decide

end RingKeeper.Text
