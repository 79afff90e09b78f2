/-!
# Bytes in base 64

Bytes are written in groups of four digits to base 64. The last group may stand for one or two bytes
only: then padding fills it up, and the bits of its last digit that belong to no byte are zero. So
bytes have only one written form.
-/

namespace RingKeeper.Text

def base64Digit? (c : Char) : Option Nat :=
  if c.isUpper then some (c.toNat - 'A'.toNat)
  else if c.isLower then some (c.toNat - 'a'.toNat + 26)
  else if c.isDigit then some (c.toNat - '0'.toNat + 52)
  else if c = '+' then some 62
  else if c = '/' then some 63
  else none

def isBase64Digit (c : Char) : Bool := (base64Digit? c).isSome

/-- Whether the digit leaves this many of its six bits zero, counted from the last. -/
def endsInZeros (bits : Nat) (c : Char) : Bool :=
  (base64Digit? c).any fun n => decide (n % Nat.pow 2 bits = 0)

/-- Whether the text is the written form of bytes. -/
def isBase64 : List Char → Bool
  | [] => true
  | [a, b, '=', '='] => isBase64Digit a && endsInZeros 4 b
  | [a, b, c, '='] => isBase64Digit a && isBase64Digit b && endsInZeros 2 c
  | a :: b :: c :: d :: s => [a, b, c, d].all isBase64Digit && isBase64 s
  | _ => false

example : isBase64 "aGVsbG8=".toList = true ∧ isBase64 "aGVsbG8h".toList = true := by decide
example : isBase64 "aGVsbG9=".toList = false ∧ isBase64 "aGVsbG8".toList = false := by decide

end RingKeeper.Text
