import RingKeeper.Text.Pattern.Basic

/-!
# The size of patterns

A pattern that is too large is refused. Its size is that of two automata that read the text byte by
byte, one forward and the other one backward. Most states have the same size, and those with several
ways on have some more for each of them. In the forward one equal endings of characters share their
states, in the backward one what comes first in a character is shared with the character before.
-/

namespace RingKeeper.Text

/-! ### Characters in bytes -/

/-- Bytes from the first to the last one. -/
abbrev ByteRange := Nat × Nat

/-- The ranges of bytes that characters with so many further bytes have, from one to another one. -/
def byteRanges : (further : Nat) → (first last lead : Nat) → List (List ByteRange)
  | 0, first, last, lead => [[(lead + first, lead + last)]]
  | further + 1, first, last, lead =>
    let block := 64 ^ (further + 1)
    let a := first / block
    let b := last / block
    let part (lead' first last : Nat) : List (List ByteRange) :=
      (byteRanges further first last 0x80).map fun s => (lead + lead', lead + lead') :: s
    if a = b then part a (first % block) (last % block)
    else
      let head := if first % block = 0 then [] else part a (first % block) (block - 1)
      let tail := if last % block = block - 1 then [] else part b 0 (last % block)
      let a := if first % block = 0 then a else a + 1
      let e := if last % block = block - 1 then b + 1 else b
      let whole : List (List ByteRange) :=
        if a < e then
          [(lead + a, lead + e - 1) :: List.replicate (further + 1) (0x80, 0xBF)]
        else []
      head ++ whole ++ tail

/-- The code points by the number of bytes behind the first one, and what is added to that one. -/
def byteLengths : List (CharRange × Nat × Nat) :=
  [(⟨0, 0x7F⟩, 0, 0), (⟨0x80, 0x7FF⟩, 1, 0xC0), (⟨0x800, 0xD7FF⟩, 2, 0xE0),
    (⟨0xE000, 0xFFFF⟩, 2, 0xE0), (⟨0x10000, 0x10FFFF⟩, 3, 0xF0)]

/-- The characters of a range as sequences of ranges of bytes, in ascending order. -/
def CharRange.inBytes (r : CharRange) : List (List ByteRange) :=
  byteLengths.flatMap fun (codes, further, lead) =>
    let first := max r.first codes.first
    let last := min r.last codes.last
    if first ≤ last then byteRanges further first last lead else []

example : CharRange.inBytes ⟨0x41, 0xE9⟩ = [[(0x41, 0x7F)], [(0xC2, 0xC2), (0x80, 0xBF)],
    [(0xC3, 0xC3), (0x80, 0xA9)]] := by decide +kernel

namespace Pattern

/-! ### Sets of characters -/

/-- The size of a state. -/
def stateSize : Nat := 32

/-- What a state has more for so many ways on. -/
def waysSize (n : Nat) : Nat := if n ≤ 1 then 0 else 8 * n

/-- The bytes behind a first one, in sequences that are together and agree on it. -/
def byFirst : List (List ByteRange) → List (ByteRange × List (List ByteRange))
  | [] => []
  | [] :: ss => byFirst ss
  | (b :: s) :: ss =>
    match byFirst ss with
    | (c, rest) :: more => if b = c then (c, s :: rest) :: more else (b, [s]) :: (c, rest) :: more
    | [] => [(b, [s])]

/-- The different endings of sequences of at most so many bytes, and the ways on behind each. -/
def endings : (most : Nat) → List (List ByteRange) → List (List (List ByteRange) × Nat)
  | 0, _ => []
  | most + 1, ss =>
    let ways := byFirst ss
    if ways.isEmpty then []
    else (ss, ways.length) :: ways.flatMap fun w => endings most w.2

/-- How many bytes two sequences have in common at their start. -/
def commonLength : List ByteRange → List ByteRange → Nat
  | b :: s, c :: t => if b = c then commonLength s t + 1 else 0
  | _, _ => 0

/-- The bytes of the sequences that the sequence before does not share. -/
def ownBytes : (before : List ByteRange) → List (List ByteRange) → Nat
  | _, [] => 0
  | before, s :: ss => s.length - commonLength s before + ownBytes s ss

/-- The size of a set with these ranges, in ascending order and with gaps between them. -/
def rangesSize (backward : Bool) (rs : List CharRange) : Nat :=
  let sequences := rs.flatMap CharRange.inBytes
  if rs.isEmpty then stateSize
  else if rs.all fun r => decide (rs.length = 1 ∧ r.first = r.last) then
    stateSize * (sequences.headD []).length
  else if rs.all fun r => decide (r.last < 0x80) then 2 * stateSize + waysSize rs.length
  else if backward then 2 * stateSize + 4 * sequences.length + stateSize * ownBytes [] sequences
  else
    (endings 4 sequences).eraseDups.foldl (fun size e => size + stateSize + waysSize e.2) stateSize

/-- The size of a set of characters, read forward or backward. -/
def setSize (backward : Bool) (s : CharSet) : Nat :=
  match s.ranges with
  | [r] => rangesSize backward [r]
  | _ => rangesSize backward s.normal.ranges

/-! ### Patterns -/

/-- What a state that leads to two others has more. -/
def forkSize : Nat := 8

/-- The size of a repetition of what has size `n`. -/
def repeatedSize (mayBeVoid : Bool) (n least : Nat) (most : Option Nat) : Nat :=
  let fork := stateSize + forkSize
  match most with
  | none =>
    if least = 0 then n + if mayBeVoid then 2 * fork + stateSize else fork
    else least * n + fork
  | some most =>
    if least = 0 ∧ most = 1 then n + fork + stateSize
    else if least = most then least * n
    else (if least = 0 then stateSize else least * n) + stateSize + (most - least) * (n + fork)

/-- The size of the automaton for a pattern. -/
def size (backward : Bool) : Pattern → Nat
  | empty => stateSize
  | char set => setSize backward set
  | look _ => stateSize
  | seq p q => p.size backward + q.size backward
  | either p q =>
    let forks :=
      match q with
      | either _ _ => 4
      | _ => 2 * stateSize + 8
    p.size backward + q.size backward + forks
  | repeated p least most => repeatedSize p.mayBeVoid (p.size backward) least most
  | group p => p.size backward + if backward then 0 else 2 * stateSize

/-- What every automaton has beside the states for its pattern. -/
def frameSize : Nat := 256

/-- The greatest size of an automaton. -/
def mostSize : Nat := 10 * Nat.pow 2 20

/-- Whether the pattern is not too large. -/
def isSmall (p : Pattern) : Bool :=
  [false, true].all fun backward => decide (p.size backward + frameSize ≤ mostSize)

end Pattern

end RingKeeper.Text
