import RingKeeper.Settings.Schema
import RingKeeper.Text.Utf8

/-!
# The environment of a process

A process is handed its environment as one block of bytes: settings of the form `NAME=value`, each
with a zero byte at its end.
-/

namespace RingKeeper.Environment

/-- The parts of the bytes that end in a zero byte; `part` holds the bytes since the last one. -/
def endedParts (part : List UInt8) : List UInt8 → List (List UInt8)
  | [] => []
  | b :: bs => if b = 0 then part.reverse :: endedParts [] bs else endedParts (b :: part) bs

/-- The name and the value of a setting; one without an equals sign is none. -/
def setting? (bytes : List UInt8) : Option (String × String) :=
  let name := bytes.takeWhile fun b => decide (b ≠ 0x3D)
  match bytes.dropWhile fun b => decide (b ≠ 0x3D) with
  | _ :: value => some (Text.decode name, Text.decode value)
  | [] => none

/-- The environment of a block. -/
def ofBlock (bytes : List UInt8) : Environment :=
  ofPairs ((endedParts [] bytes).filterMap setting?)

end RingKeeper.Environment
