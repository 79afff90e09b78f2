import RingKeeper.Double.Basic

/-!
# The shortest decimal of a number

A number is written in the fewest digits that read back to it, and among those in the digits that are
nearest to it. Numbers of moderate size are written with a point, always with a digit on either side
of it, and all others with an exponent.
-/

namespace RingKeeper.Double

/-- The decimal `digits` times ten to the power of `exponent`. -/
structure Decimal where
  digits : Nat
  exponent : Int
deriving DecidableEq, Repr

/-- How `a` times ten to the power of `i` compares with `b` times two to the power of `j`. -/
def compareScaled (a : Nat) (i : Int) (b : Nat) (j : Int) : Ordering :=
  compare (a * Nat.pow 10 i.toNat * Nat.pow 2 (-j).toNat)
    (b * Nat.pow 2 j.toNat * Nat.pow 10 (-i).toNat)

/-! ### Digits -/

/-- Whether the next smaller number is only half as far away as the next larger one. -/
def isNarrowBelow (x : Double) : Bool :=
  decide (2 * x.units = unitBound) && decide (leastExponent < x.exponent)

/-- Whether the decimal lies among the values that are rounded to the size of the number. -/
def isReadBy (x : Double) (d : Decimal) : Bool :=
  let below := 4 * x.units - if x.isNarrowBelow then 1 else 2
  let above := 4 * x.units + 2
  let ends := decide (x.units % 2 = 0)
  let low := compareScaled d.digits d.exponent below (x.exponent - 2)
  let high := compareScaled d.digits d.exponent above (x.exponent - 2)
  (decide (low = .gt) || (ends && decide (low = .eq)))
    && (decide (high = .lt) || (ends && decide (high = .eq)))

/-- The number of places before the point: the least power of ten above the size of the number. -/
def places (x : Double) : Int :=
  -- the logarithm to base ten, a little below its value
  let low := (((x.units.log2 : Int) + x.exponent) * 30103).fdiv 100000
  if compareScaled 1 (low + 1) x.units x.exponent = .gt then low + 1 else low + 2

/-- The greatest decimal with this exponent that is not above the size of the number. -/
def floorAt (x : Double) (exponent : Int) : Decimal :=
  let (n, d) := scale x.units 1 x.exponent
  ⟨n * Nat.pow 10 (-exponent).toNat / (d * Nat.pow 10 exponent.toNat), exponent⟩

/-- The decimal with this exponent that is read as the number and nearest to it, if one is. -/
def nearestAt? (x : Double) (exponent : Int) : Option Decimal :=
  let low := x.floorAt exponent
  let high : Decimal := { low with digits := low.digits + 1 }
  match x.isReadBy low, x.isReadBy high with
  | false, false => none
  | true, false => some low
  | false, true => some high
  | true, true =>
    -- twice the number against the sum of the two
    match compareScaled (2 * low.digits + 1) exponent (2 * x.units) x.exponent with
    | .gt => some low
    | .lt => some high
    | .eq => some (if low.digits % 2 = 0 then low else high)

/-- The decimal without the zeros at its end, of which there are so many at most. -/
def Decimal.strip : (most : Nat) → Decimal → Decimal
  | 0, d => d
  | most + 1, d =>
    if d.digits % 10 = 0 then strip most ⟨d.digits / 10, d.exponent + 1⟩ else d

/-- The number of digits that is enough for every number. -/
def mostDigits : Nat := 17

/-- The shortest decimal that is read as the size of a number that is not zero. -/
def shortest (x : Double) : Decimal :=
  let found := (List.range mostDigits).findSome? fun n : Nat => x.nearestAt? (x.places - (n + 1))
  (found.getD (x.floorAt (x.places - mostDigits))).strip mostDigits

/-! ### Layout -/

def zeros (n : Nat) : List Char := List.replicate n '0'

/-- The most places before the point that are written out. -/
def mostPlaces : Int := 16

/-- The most zeros right behind the point that are written out. -/
def mostZeros : Int := 4

/-- The digits of a decimal with a point between them, or with an exponent. -/
def Decimal.text (d : Decimal) : String :=
  let ds := (toString d.digits).toList
  let places : Int := ds.length + d.exponent
  String.ofList <|
    if 0 ≤ d.exponent ∧ places ≤ mostPlaces then ds ++ zeros d.exponent.toNat ++ ['.', '0']
    else if 0 < places ∧ places ≤ mostPlaces then
      ds.take places.toNat ++ '.' :: ds.drop places.toNat
    else if -mostZeros ≤ places ∧ places ≤ 0 then ['0', '.'] ++ zeros (-places).toNat ++ ds
    else
      let exponent := 'e' :: (toString (places - 1)).toList
      match ds with
      | [d] => d :: exponent
      | d :: ds => d :: '.' :: ds ++ exponent
      | [] => exponent

def text (x : Double) : String :=
  let size := if x.units = 0 then "0.0" else x.shortest.text
  if x.negative then "-" ++ size else size

example : (ofRatio? 1 10).map text = some "0.1" := by decide +kernel
example : (ofRatio? 30000000000000004 100000000000000000).map text = some "0.30000000000000004" := by
  decide +kernel
example : (ofRatio? 1 (Nat.pow 2 1074)).map text = some "5e-324" := by decide +kernel
example : (ofRatio? 1 (Nat.pow 2 25)).map text = some "2.9802322387695312e-8" := by decide +kernel
example : (ofNat? (Nat.pow 10 15)).map text = some "1000000000000000.0" := by decide +kernel
example : (ofNat? (Nat.pow 10 16)).map text = some "1e16" := by decide +kernel
example : (ofNat? (Nat.pow 10 23)).map text = some "1e23" := by decide +kernel

end RingKeeper.Double
