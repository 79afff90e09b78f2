/-!
# Widths

Numbers that come from outside are held in a fixed number of bits. A width is the number of values
that the bits can have: the bound that such a number stays below.
-/

namespace RingKeeper.Width

def bits16 : Nat := 65536

def bits32 : Nat := 4294967296

def bits64 : Nat := 18446744073709551616

example : bits16 = Nat.pow 2 16 ∧ bits32 = Nat.pow 2 32 ∧ bits64 = Nat.pow 2 64 := by decide

end RingKeeper.Width
