import RingKeeper.Fault

/-!
# Values of the environment

Numbers are decimal, may begin with a plus sign, and stay within the type that they are read for.
The first character that cannot be right is the problem. Truth values are the two words alone.
-/

namespace RingKeeper.Text

/-- Reads further digits after the number `n`, which stays below `bound`. -/
def digitsBelow (bound n : Nat) : List Char → Except ValueProblem Nat
  | [] => .ok n
  | c :: s =>
    if !c.isDigit then .error .invalidDigit
    else
      let m := 10 * n + (c.toNat - '0'.toNat)
      if m < bound then digitsBelow bound m s else .error .tooLarge

/-- A decimal number below the bound. -/
def naturalBelow (bound : Nat) : List Char → Except ValueProblem Nat
  | [] => .error .emptyInteger
  | ['+'] => .error .invalidDigit
  | '+' :: s => digitsBelow bound 0 s
  | s => digitsBelow bound 0 s

def truthValue (s : String) : Except ValueProblem Bool :=
  if s = "true" then .ok true
  else if s = "false" then .ok false
  else .error .notBoolean

example : (naturalBelow 65536 "+7199".toList).toOption = some 7199 := by decide
example : (naturalBelow 65536 "65536".toList).toOption = none := by decide

end RingKeeper.Text
