import RingKeeper.Json.Basic
import RingKeeper.Table

/-!
# Reading documents

A typed value is read field by field. A field that is absent or null has no value, and fields that
nobody asks for are passed over. Where a key is written more than once, every value under it has to
be readable, and the last one counts.
-/

namespace RingKeeper.Json

def readFields : Json → Option Fields
  | obj fs => some fs
  | _ => none

/-- A whole number below the bound. -/
def readNatBelow (bound : Nat) : Json → Option Nat
  | int (.ofNat n) => if n < bound then some n else none
  | _ => none

def readList {α : Type} (read : Json → Option α) : Json → Option (List α)
  | arr items => items.mapM read
  | _ => none

def readTable : Json → Option TextTable
  | obj fs => (fs.mapM fun f => (str? f.2).map fun s => (f.1, s)).map Table.ofList
  | _ => none

/-- Null is no value. -/
def readOptional {α : Type} (read : Json → Option α) : Json → Option (Option α)
  | null => some none
  | j => (read j).map some

/-- A field that may be absent: no value, a value, or, as failure, something that is not one. -/
def Fields.read? {α : Type} (fs : Fields) (key : String) (read : Json → Option α) :
    Option (Option α) :=
  ((Fields.all fs key).mapM (readOptional read)).map fun values => values.getLast?.join

/-- A text that counts as empty when it is absent. -/
def Fields.text (fs : Fields) (key : String) : Option String :=
  (Fields.read? fs key str?).map (·.getD "")

/-- The field of a value that may be absent. -/
def field {α : Type} (key : String) (write : α → Json) : Option α → Fields
  | none => []
  | some a => [(key, write a)]

def ofTable (t : TextTable) : Json := obj (t.entries.map fun e => (e.1, str e.2))

def ofTexts (ts : List String) : Json := arr (ts.map str)

@[simp] theorem str?_str (s : String) : str? (str s) = some s := rfl

theorem readList_ofTexts (ts : List String) : readList str? (ofTexts ts) = some ts := by
  induction ts with
  | nil => rfl
  | cons t ts ih => simp_all [readList, ofTexts]

/-- A table that has each key once is read as it was written. -/
theorem readTable_ofTable {t : TextTable} (h : t.keys.Nodup) : readTable (ofTable t) = some t := by
  suffices hm : ∀ es : List (String × String),
      List.mapM (fun f : String × Json => (str? f.2).map fun s => (f.1, s))
        (es.map fun e => (e.1, str e.2)) = some es by
    simp [readTable, ofTable, hm, Table.ofList_entries h]
  intro es
  induction es with
  | nil => rfl
  | cons e es ih => simp [ih]

end RingKeeper.Json
