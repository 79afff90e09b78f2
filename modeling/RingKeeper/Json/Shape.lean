import RingKeeper.Json.Fields
import RingKeeper.Text.Base64
import RingKeeper.Timestamp
import RingKeeper.Width

/-!
# Shapes of documents

A shape says of which type the parts of a document have to be. What is read against a shape comes
out in its regular form: without the fields that the shape does not know and without nulls, each key
once, required fields filled in, and points in time in universal time.
-/

namespace RingKeeper.Json

inductive Shape where
  | text
  | flag
  /-- A whole number with a sign, of this width. -/
  | whole (width : Nat)
  | timestamp
  /-- Bytes in base 64; null stands for no bytes. -/
  | bytes
  /-- A whole number of 32 bits, or a text. -/
  | numberOrText
  /-- A document of any shape. -/
  | any
  | list (item : Shape)
  | table (value : Shape)
  /-- Groups of keys, whether they are required, and the shape of their values. -/
  | object (groups : List (List String × Bool × Shape))

namespace Shape

/-- A group of fields of an object. -/
abbrev Group : Type := List String × Bool × Shape

/-- Fields that an object may have. -/
def may (keys : List String) (shape : Shape) : Group := (keys, false, shape)

/-- Fields that an object has; where they are absent, they are empty. -/
def must (keys : List String) (shape : Shape) : Group := (keys, true, shape)

/-- Whether the number is one of those with a sign that the width holds, half of them negative. -/
def isSigned (width : Nat) (n : Int) : Bool :=
  decide (-(width / 2 : Nat) ≤ n) && decide (n < (width / 2 : Nat))

/-- A whole number of 32 bits. -/
def int32 : Shape := .whole Width.bits32

/-- A whole number of 64 bits. -/
def int64 : Shape := .whole Width.bits64

example : isSigned Width.bits32 2147483647 = true ∧ isSigned Width.bits32 2147483648 = false := by
  decide

def texts : Shape := .list .text

def textTable : Shape := .table .text

mutual

/-- What a required field holds when it is absent. -/
def empty : Shape → Json
  | text => .str ""
  | flag => .bool false
  | whole .. => .int 0
  | timestamp => .str "1970-01-01T00:00:00Z"
  | bytes => .str ""
  | numberOrText => .int 0
  | any => .null
  | list _ => .arr []
  | table _ => .obj []
  | object groups => .obj (emptyFields groups)

/-- The required fields, all of them empty. -/
def emptyFields : List Group → Fields
  | [] => []
  | g :: gs =>
    (if g.2.1 then g.1.map fun key => (key, g.2.2.empty) else []) ++ emptyFields gs

end

mutual

/-- The document with each key once, under its last value. -/
def settled : Json → Json
  | .arr items => .arr (settledItems items)
  | .obj fs => .obj (settledFields fs)
  | j => j

/-- The documents, each key in them once. -/
def settledItems : List Json → List Json
  | [] => []
  | j :: js => settled j :: settledItems js

/-- The fields without those that are written again. -/
def settledFields : Fields → Fields
  | [] => []
  | f :: fs =>
    if (Fields.all fs f.1).isEmpty then (f.1, settled f.2) :: settledFields fs
    else settledFields fs

end

/-- The fields under one key in their regular form, of which there is one at most. -/
def readField (required : Bool) (shape : Shape) (read : Json → Option Json) (fs : Fields)
    (key : String) : Option Fields := do
  match ← Fields.read? fs key read with
  | some j => some [(key, j)]
  | none => some (if required then [(key, shape.empty)] else [])

/-- An entry in its regular form. -/
def readEntry (read : Json → Option Json) (f : String × Json) : Option (String × Json) :=
  (read f.2).map fun j => (f.1, j)

mutual

/-- The regular form of a document that lies in `depth` arrays and objects, if it has the shape. -/
def read (depth : Nat) : Shape → Json → Option Json
  | text, .str s => some (.str s)
  | flag, .bool b => some (.bool b)
  | whole width, .int n => if isSigned width n then some (.int n) else none
  | timestamp, .str s => (Timestamp.ofText? s).map fun t => .str t.text
  | bytes, .null => some (.str "")
  | bytes, .str s => if Text.isBase64 s.toList then some (.str s) else none
  | numberOrText, .str s => some (.str s)
  | numberOrText, .int n => if isSigned Width.bits32 n then some (.int n) else none
  | any, j => if j.isValueAt depth then some (settled j) else none
  | list item, .arr items => (items.mapM (item.read (depth + 1))).map .arr
  | table value, .obj fs =>
    (fs.mapM (readEntry (value.read (depth + 1)))).map fun es => .obj (Table.ofList es).entries
  | object groups, .obj fs => (readGroups (depth + 1) groups fs).map .obj
  | _, _ => none

/-- The fields that the groups know, in their regular form. -/
def readGroups (depth : Nat) : List Group → Fields → Option Fields
  | [], _ => some []
  | g :: gs, fs => do
    let here ← g.1.mapM (readField g.2.1 g.2.2 (g.2.2.read depth) fs)
    some (here.flatten ++ (← readGroups depth gs fs))

end

example : (object [may ["a"] text]).read 0 (.obj [("a", .str "x"), ("b", .int 1)]) =
    some (.obj [("a", .str "x")]) := by decide

example : (object [may ["a"] text]).read 0 (.obj [("a", .int 1), ("a", .str "x")]) = none := by
  decide

end Shape

end RingKeeper.Json
