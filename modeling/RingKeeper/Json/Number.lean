import RingKeeper.Json.Basic
import RingKeeper.Width

/-!
# Numbers in JSON texts

A number has digits, perhaps a fraction and perhaps an exponent, without zeros in front that are not
needed. Without fraction and exponent it is a whole number if 64 bits hold it, with a sign or without
one; the negative zero is not whole. Any other number is taken to double precision in two steps: the
digits that 64 bits hold become a number, and that is multiplied or divided by a power of ten. Each
step rounds. A number beyond the range of double precision is illegible.
-/

namespace RingKeeper.Json

/-- A number by the parts of its text. -/
structure NumberText where
  negative : Bool
  whole : List Char
  /-- The digits after the point, if there is a point. -/
  fraction : Option (List Char) := none
  /-- The sign and the digits of the exponent, if there is one. -/
  exponent : Option (Bool × List Char) := none
deriving DecidableEq, Repr

namespace NumberText

/-- The digits at the front of a text, of which there has to be one, and the text behind them. -/
def digits? (s : List Char) : Option (List Char × List Char) :=
  match s.takeWhile Char.isDigit with
  | [] => none
  | ds => some (ds, s.dropWhile Char.isDigit)

def readExponent (n : NumberText) : List Char → Option NumberText
  | [] => some n
  | e :: s =>
    if e ≠ 'e' ∧ e ≠ 'E' then none
    else do
      let (negative, s) :=
        match s with
        | '-' :: s => (true, s)
        | '+' :: s => (false, s)
        | s => (false, s)
      let (ds, rest) ← digits? s
      if rest.isEmpty then some { n with exponent := some (negative, ds) } else none

def readFraction (n : NumberText) : List Char → Option NumberText
  | '.' :: s => do
    let (ds, rest) ← digits? s
    readExponent { n with fraction := some ds } rest
  | s => readExponent n s

/-- The parts of a text that is a number. -/
def ofText? (s : List Char) : Option NumberText := do
  let (negative, s) :=
    match s with
    | '-' :: s => (true, s)
    | s => (false, s)
  let (whole, rest) ← digits? s
  if whole.head? = some '0' && whole.length ≠ 1 then none
  else readFraction { negative, whole } rest

/-! ### Whole numbers -/

def digitOf (d : Char) : Nat := d.toNat - '0'.toNat

/-- The number that digits stand for. -/
def natOf (ds : List Char) : Nat := ds.foldl (fun n d => 10 * n + digitOf d) 0

/-- The value as a whole number, if it is written as one. -/
def int? (n : NumberText) : Option Int :=
  if n.fraction.isSome || n.exponent.isSome then none
  else
    let value := natOf n.whole
    if n.negative then
      if value ≠ 0 ∧ 2 * value ≤ Width.bits64 then some (-value) else none
    else if value < Width.bits64 then some value else none

/-! ### Numbers of double precision -/

/-- What is kept of the digits: a number that 64 bits hold, times ten to the power of `exponent`. -/
structure Kept where
  value : Nat := 0
  exponent : Int := 0
deriving DecidableEq, Repr

namespace Kept

/-- The number with one more digit, if 64 bits hold that. -/
def push? (k : Kept) (d : Char) : Option Nat :=
  let value := 10 * k.value + digitOf d
  if value < Width.bits64 then some value else none

/-- Adds digits in front of the point; from the first that does not fit on they count as places. -/
def pushWhole (k : Kept) : List Char → Kept
  | [] => k
  | d :: ds =>
    match k.push? d with
    | some value => { k with value }.pushWhole ds
    | none => { k with exponent := k.exponent + (d :: ds).length }

/-- Adds digits behind the point; from the first that does not fit on they are left out. -/
def pushFraction (k : Kept) : List Char → Kept
  | [] => k
  | d :: ds =>
    match k.push? d with
    | some value => (⟨value, k.exponent - 1⟩ : Kept).pushFraction ds
    | none => k

end Kept

/-- The greatest power of ten that double precision holds. -/
def mostPower : Nat := 308

def powerOfTen? (n : Nat) : Option Double := Double.ofNat? (Nat.pow 10 n)

/-- The number times ten to the power of `exponent`. In so many steps it has become zero. -/
def shift? : (steps : Nat) → Double → (exponent : Int) → Option Double
  | 0, _, _ => some .zero
  | steps + 1, x, exponent =>
    if x.units = 0 then some x
    else if mostPower < exponent then none
    else if 0 ≤ exponent then do x.mul? (← powerOfTen? exponent.toNat)
    else if -mostPower ≤ exponent then do x.div? (← powerOfTen? (-exponent).toNat)
    else do shift? steps (← x.div? (← powerOfTen? mostPower)) (exponent + mostPower)

def shiftSteps : Nat := 3

/-- The value in double precision, unless it is too large. -/
def double? (n : NumberText) : Option Double :=
  let kept := (({} : Kept).pushWhole n.whole).pushFraction (n.fraction.getD [])
  let (isNegative, ds) := n.exponent.getD (false, [])
  let exponent : Int := if isNegative then -(natOf ds : Int) else natOf ds
  (Double.ofNat? kept.value).bind fun x =>
    (shift? shiftSteps x (kept.exponent + exponent)).map (Double.withSign n.negative)

end NumberText

/-- The document of a text that is a number. -/
def ofNumber? (s : List Char) : Option Json :=
  (NumberText.ofText? s).map fun n =>
    match n.int? with
    | some i => int i
    | none => (n.double?).elim illegible real

example : ofNumber? "-12".toList = some (int (-12)) := by decide
example : ofNumber? "12.0".toList = some (real ⟨false, 6755399441055744, -49⟩) := by decide +kernel
example : ofNumber? "-0".toList = some (real ⟨true, 0, -1074⟩) := by decide +kernel
example : ofNumber? "012".toList = none ∧ ofNumber? "1.".toList = none := by decide
example : ofNumber? "1e400".toList = some illegible := by decide +kernel
example : ofNumber? "0e400".toList = some (real .zero) := by decide +kernel
example : ofNumber? "1e-400".toList = some (real .zero) := by decide +kernel

end RingKeeper.Json
