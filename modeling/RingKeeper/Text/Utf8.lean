/-!
# Bytes as text

Bytes are decoded as UTF-8. Where they are not well formed, each longest beginning of a character
that breaks off, or else each single byte, becomes one replacement character, so that decoding
never fails.
-/

namespace RingKeeper.Text

def replacement : Char := '\uFFFD'

/-- The character of these six bits after the bits read so far. -/
def appendBits (n : Nat) (b : UInt8) : Nat := n * 64 + b.toNat % 64

/-- The least and greatest second byte after a first byte of a character of two to four bytes. -/
def secondByteRange (first : UInt8) : UInt8 × UInt8 :=
  if first = 0xE0 then (0xA0, 0xBF)
  else if first = 0xED then (0x80, 0x9F)
  else if first = 0xF0 then (0x90, 0xBF)
  else if first = 0xF4 then (0x80, 0x8F)
  else (0x80, 0xBF)

/-- The number of bytes of a character with this first byte, and the bits that the byte carries. -/
def leadByte? (b : UInt8) : Option (Nat × Nat) :=
  if 0xC2 ≤ b && b ≤ 0xDF then some (2, b.toNat % 32)
  else if 0xE0 ≤ b && b ≤ 0xEF then some (3, b.toNat % 16)
  else if 0xF0 ≤ b && b ≤ 0xF4 then some (4, b.toNat % 8)
  else none

/-- What is being read: nothing, or a character with its bits so far and the bytes still due. -/
inductive Reading where
  | fresh
  | within (bits due : Nat) (range : UInt8 × UInt8)

/-- Starts on a byte that begins a character, or replaces it. -/
def startAt (b : UInt8) : List Char × Reading :=
  if b < 0x80 then ([Char.ofNat b.toNat], .fresh)
  else
    match leadByte? b with
    | some (size, bits) => ([], .within bits (size - 1) (secondByteRange b))
    | none => ([replacement], .fresh)

/-- Takes one byte: the characters that are complete with it, and what is being read now. -/
def takeByte : Reading → UInt8 → List Char × Reading
  | .fresh, b => startAt b
  | .within bits due range, b =>
    if range.1 ≤ b && b ≤ range.2 then
      let bits := appendBits bits b
      if due ≤ 1 then ([Char.ofNat bits], .fresh)
      else ([], .within bits (due - 1) (0x80, 0xBF))
    else
      let (cs, reading) := startAt b
      (replacement :: cs, reading)

def decodeFrom : Reading → List UInt8 → List Char
  | .fresh, [] => []
  | .within .., [] => [replacement]
  | reading, b :: bs =>
    let (cs, reading) := takeByte reading b
    cs ++ decodeFrom reading bs

def decode (bytes : List UInt8) : String := String.ofList (decodeFrom .fresh bytes)

/-- The text of bytes that are well formed. -/
def decode? (bytes : List UInt8) : Option String := String.fromUTF8? (ByteArray.mk bytes.toArray)

def encode (s : String) : List UInt8 := s.toUTF8.toList

example : decodeFrom .fresh [0x61, 0xC3, 0xA9, 0xE2, 0x82, 0x62] =
    ['a', 'é', replacement, 'b'] := by decide

end RingKeeper.Text
