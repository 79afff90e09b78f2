import RingKeeper.Text.Blank
import RingKeeper.Text.CharSet.Basic

/-!
# Tables of characters

A table lists code points in hexadecimal digits, with blanks between the entries. An entry is one
code point, a range such as `41-5A`, or the code points of a range at a fixed distance from each
other, as in `100-12E/2`.
-/

namespace RingKeeper.Text.CharSet

def hexDigitOf (c : Char) : Nat :=
  if c.isDigit then c.toNat - '0'.toNat else c.toNat - 'A'.toNat + 10

def hexOf (ds : List Char) : Nat := ds.foldl (fun n d => 16 * n + hexDigitOf d) 0

/-- The first and the last code point of an entry. -/
def endsOf (s : List Char) : CharRange :=
  match s.splitOn '-' with
  | [first, last] => ⟨hexOf first, hexOf last⟩
  | _ => ⟨hexOf s, hexOf s⟩

/-- The code points of a range that are a multiple of `step` behind its start. -/
def every (step : Nat) (r : CharRange) : List Nat :=
  (List.range ((r.last - r.first) / step + 1)).map fun i => r.first + i * step

/-- The ranges that an entry stands for. -/
def entry (s : List Char) : List CharRange :=
  match s.splitOn '/' with
  | [r, step] => (every (hexOf step) (endsOf r)).map fun n => ⟨n, n⟩
  | _ => [endsOf s]

def entries (table : String) : List (List Char) :=
  (table.toList.splitOnP isBlank).filter fun e => !e.isEmpty

def ofTable (table : String) : CharSet := ⟨(entries table).flatMap entry⟩

example : ofTable "41-5A AA 100-104/2" = ⟨[⟨0x41, 0x5A⟩, ⟨0xAA, 0xAA⟩, ⟨0x100, 0x100⟩, ⟨0x102, 0x102⟩,
    ⟨0x104, 0x104⟩]⟩ := by decide +kernel

end RingKeeper.Text.CharSet
