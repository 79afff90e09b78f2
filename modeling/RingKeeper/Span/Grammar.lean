import RingKeeper.Span
import RingKeeper.Text.Blank

/-!
# Written time spans

A span is written as numbers with units, one after the other: `1h30m`, `90s`, `500ms`. It stands
for the sum of its parts. Blanks around the text do not count; nothing may stand between parts.
-/

namespace RingKeeper.Span

inductive TimeUnit where
  | hours
  | minutes
  | seconds
  | millis
deriving DecidableEq, Repr

def TimeUnit.nanos : TimeUnit → Nat
  | hours => 3600 * nanosPerSecond
  | minutes => 60 * nanosPerSecond
  | seconds => nanosPerSecond
  | millis => nanosPerMilli

/-- A piece of a written span: a number with its unit, or text that belongs to no part. -/
inductive Piece where
  | part (digits : List Char) (unit : TimeUnit)
  | stray
deriving DecidableEq, Repr

/-- The pieces of a text whose last characters read were the digits `ds`, reversed. -/
def piecesFrom (ds : List Char) : List Char → List Piece
  | [] => if ds.isEmpty then [] else [.stray]
  | 'm' :: 's' :: s =>
    if ds.isEmpty then .stray :: piecesFrom [] s else .part ds.reverse .millis :: piecesFrom [] s
  | c :: s =>
    if c.isDigit then piecesFrom (c :: ds) s
    else if ds.isEmpty then .stray :: piecesFrom [] s
    else match c with
      | 'h' => .part ds.reverse .hours :: piecesFrom [] s
      | 'm' => .part ds.reverse .minutes :: piecesFrom [] s
      | 's' => .part ds.reverse .seconds :: piecesFrom [] s
      | _ => .stray :: piecesFrom [] s

def pieces (s : List Char) : List Piece := piecesFrom [] s

/-- The number that a run of decimal digits denotes. -/
def decimal (ds : List Char) : Nat := ds.foldl (fun n d => 10 * n + (d.toNat - '0'.toNat)) 0

/-- Why a text is not a time span. -/
inductive Problem where
  /-- A number does not fit 64 bits. -/
  | numeral
  /-- The sum does not fit the clock. -/
  | tooLong
  /-- The text is empty or holds more than parts. -/
  | malformed
deriving DecidableEq, Repr

/-- Adds up the parts from the left; the first part that does not fit is the problem. -/
def sum (total : Span) : List Piece → Except Problem Span
  | [] => .ok total
  | .stray :: ps => sum total ps
  | .part ds u :: ps =>
    if Width.bits64 ≤ decimal ds then .error .numeral
    else
      let next : Span := ⟨total.nanos + decimal ds * u.nanos⟩
      if next.Fits then sum next ps else .error .tooLong

/-- The span that a text denotes. Stray text is noticed after the parts have been added up. -/
def ofText (text : String) : Except Problem Span :=
  let ps := pieces (Text.trim text.toList)
  match sum zero ps with
  | .error e => .error e
  | .ok d => if ps.isEmpty || ps.contains .stray then .error .malformed else .ok d

example : pieces "1h30m5ms".toList =
    [.part ['1'] .hours, .part ['3', '0'] .minutes, .part ['5'] .millis] := by decide
example : pieces "5 m".toList = [.stray, .stray] := by decide

end RingKeeper.Span
