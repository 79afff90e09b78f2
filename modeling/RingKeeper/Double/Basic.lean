/-!
# Numbers of double precision

A number of double precision is a whole number of at most 53 bits times a power of two. Every
operation takes its exact result to the nearest such number, and to the even one of two that are
equally near; a result that is too large for all of them is none.
-/

namespace RingKeeper

/-- A finite number: `units` times two to the power of `exponent`. -/
structure Double where
  negative : Bool := false
  units : Nat
  exponent : Int
deriving DecidableEq, Repr

namespace Double

/-- The number of values that the units can have: they have 53 bits. -/
def unitBound : Nat := 9007199254740992

example : unitBound = Nat.pow 2 53 := by decide

def leastExponent : Int := -1074

def mostExponent : Int := 971

def zero : Double := { units := 0, exponent := leastExponent }

/-! ### Rounding -/

/-- The quotient as a whole number; of two that are equally near, the even one. -/
def roundDiv (n d : Nat) : Nat :=
  let q := n / d
  let twice := 2 * (n % d)
  if twice < d ∨ twice = d ∧ q % 2 = 0 then q else q + 1

/-- The quotient times two to the power of `e`, as a quotient. -/
def scale (n d : Nat) (e : Int) : Nat × Nat :=
  if 0 ≤ e then (n * Nat.pow 2 e.toNat, d) else (n, d * Nat.pow 2 (-e).toNat)

/-- The number that is nearest to a quotient, unless it is too large. -/
def ofRatio? (n d : Nat) : Option Double :=
  if n = 0 then some zero
  else
    -- in units of two to the power of this, the quotient has 53 bits or 54
    let fine : Int := max ((n.log2 : Int) - d.log2 - 53) leastExponent
    let (a, b) := scale n d (-fine)
    let exponent := if a / b < unitBound then fine else fine + 1
    let (a, b) := scale n d (-exponent)
    let units := roundDiv a b
    let (units, exponent) :=
      if units < unitBound then (units, exponent) else (units / 2, exponent + 1)
    if mostExponent < exponent then none else some { units, exponent }

/-- The number that is nearest to a quotient times two to the power of `e`. -/
def ofScaled? (n d : Nat) (e : Int) : Option Double :=
  let (n, d) := scale n d e
  ofRatio? n d

def ofNat? (n : Nat) : Option Double := ofRatio? n 1

def withSign (negative : Bool) (x : Double) : Double := { x with negative }

def mul? (x y : Double) : Option Double :=
  (ofScaled? (x.units * y.units) 1 (x.exponent + y.exponent)).map
    (withSign (x.negative != y.negative))

/-- The quotient of two numbers, of which the second is not zero. -/
def div? (x y : Double) : Option Double :=
  (ofScaled? x.units y.units (x.exponent - y.exponent)).map
    (withSign (x.negative != y.negative))

example : ofNat? 9007199254740993 = some ⟨false, 4503599627370496, 1⟩ := by decide +kernel
example : ofRatio? 1 3 = some ⟨false, 6004799503160661, -54⟩ := by decide +kernel
example : ofNat? (Nat.pow 2 1024 - Nat.pow 2 970) = none := by decide +kernel
example : ofRatio? 1 (Nat.pow 2 1075) = some zero := by decide +kernel

end Double

end RingKeeper
