import RingKeeper.Ring.Basic
import RingKeeper.Text.Blank
import RingKeeper.Text.Lines

/-!
# Reading the ring table

A line is a datacenter header, a node row, or neither. A row has seven columns separated by
blanks; each column but the last is a run without blanks (the load is two such runs with one space
between them), and the rack is the rest of the line. Rows before the first header belong to no
datacenter and are dropped, like every line that is neither.
-/

namespace RingKeeper.Ring

open Text

/-- What one line of the report says. -/
inductive Line where
  | header (name : String)
  | row (node : Node)
  | other
deriving DecidableEq, Repr

/-! ### Columns -/

/-- The parts of a text between the occurrences of a separator. -/
def parts (sep : Char) : List Char → List (List Char)
  | [] => [[]]
  | c :: s =>
    if c = sep then [] :: parts sep s
    else match parts sep s with
      | [] => [[c]]
      | p :: ps => (c :: p) :: ps

def isDigits (w : List Char) : Bool := !w.isEmpty && w.all (·.isDigit)

/-- Up or down, then normal, leaving, joining or moving. -/
def isState : List Char → Bool
  | [a, b] => "UD".toList.contains a && "NLJM".toList.contains b
  | _ => false

/-- Four groups of digits with dots between them. -/
def isAddress (w : List Char) : Bool :=
  let groups := parts '.' w
  groups.length == 4 && groups.all isDigits

/-- Digits, and perhaps a dot and more digits. -/
def isNumber (w : List Char) : Bool :=
  let groups := parts '.' w
  (groups.length == 1 || groups.length == 2) && groups.all isDigits

def sizeUnits : List (List Char) :=
  ["bytes", "B", "KiB", "MiB", "GiB", "TiB", "PiB"].map (·.toList)

def isOwnership (w : List Char) : Bool :=
  !w.isEmpty && w.all fun c => c.isDigit || "?.%".toList.contains c

def isHostId (w : List Char) : Bool := !w.isEmpty && w.all fun c => c.isAlphanum || c == '-'

/-- The run without blanks at the front of the text, if it fits the column, and what follows it. -/
def column? (fits : List Char → Bool) (s : List Char) : Option (List Char × List Char) :=
  let w := s.takeWhile (!isBlank ·)
  if fits w then some (w, s.dropWhile (!isBlank ·)) else none

/-- The text after a separator of at least one blank. -/
def gap? : List Char → Option (List Char)
  | [] => none
  | c :: s => if isBlank c then some (skipBlanks s) else none

/-- A number, one space and a unit. -/
def load? (s : List Char) : Option (List Char × List Char) := do
  let (number, s) ← column? isNumber s
  match s with
  | ' ' :: s =>
    let (unit, s) ← column? sizeUnits.contains s
    some (number ++ ' ' :: unit, s)
  | _ => none

/--
The rack is the rest of the line after the separator, without the blanks at its end. When only
blanks are left, the last of them is the rack, provided that one more is there to separate it.
-/
def rack? (s : List Char) : Option (List Char) := do
  let rest ← gap? s
  if rest.isEmpty then
    match s.tail.getLast? with
    | some c => some [c]
    | none => none
  else some (trimEnd rest)

/-! ### Lines -/

def headerMark : List Char := "Datacenter: ".toList

/-- The name of a datacenter header, trimmed; at least one character stands after the mark. -/
def header? (line : List Char) : Option String :=
  match headerMark.isPrefixOf? (skipBlanks line) with
  | some (c :: name) => some (String.ofList (trim (c :: name)))
  | _ => none

/-- The node of a row. -/
def row? (line : List Char) : Option Node := do
  let (state, s) ← column? isState (skipBlanks line)
  let (address, s) ← column? isAddress (← gap? s)
  let (load, s) ← load? (← gap? s)
  let (tokens, s) ← column? isDigits (← gap? s)
  let (owns, s) ← column? isOwnership (← gap? s)
  let (hostId, s) ← column? isHostId (← gap? s)
  let rack ← rack? s
  some
    { state := String.ofList state
      address := String.ofList address
      load := String.ofList load
      tokens := String.ofList tokens
      owns := String.ofList owns
      hostId := String.ofList hostId
      rack := String.ofList rack }

def Line.ofText (line : List Char) : Line :=
  match header? line with
  | some name => .header name
  | none =>
    match row? line with
    | some node => .row node
    | none => .other

/-! ### The table -/

/-- The rows up to the next header. -/
def rowsHere : List Line → List Node
  | [] => []
  | .header _ :: _ => []
  | .row n :: ls => n :: rowsHere ls
  | .other :: ls => rowsHere ls

/-- One datacenter for each header, with the rows up to the next one. -/
def datacentersOf : List Line → List Datacenter
  | [] => []
  | .header name :: ls => ⟨name, rowsHere ls⟩ :: datacentersOf ls
  | .row _ :: ls => datacentersOf ls
  | .other :: ls => datacentersOf ls

/-- The ring of a report. Reading never fails: what is neither header nor row is skipped. -/
def ofText (report : String) : Ring :=
  ⟨datacentersOf ((lines report.toList).map Line.ofText)⟩

end RingKeeper.Ring
