import RingKeeper.Double.Basic

/-!
# JSON documents

A document keeps what its text says: the fields of an object stand in the order in which they were
written, also when one key is written twice. A number is a whole number or one of double precision.
Main statements: documents can be compared (`same_iff`), and what is legible has no illegible part.
-/

namespace RingKeeper

inductive Json where
  | null
  | bool (b : Bool)
  /-- A whole number of at most 64 bits. -/
  | int (n : Int)
  /-- Any other number. -/
  | real (x : Double)
  | str (s : String)
  | arr (items : List Json)
  | obj (fields : List (String × Json))
  /--
  Something that is well formed but stands for no value: a text with half a surrogate pair, an object
  with such a key, or a number that is too large. Where nobody looks at it, it does no harm.
  -/
  | illegible

namespace Json

/-- The fields of an object under their keys. -/
abbrev Fields : Type := List (String × Json)

/-! ### Comparison -/

mutual

/-- Whether two documents are the same. -/
def same : Json → Json → Bool
  | null, null => true
  | bool a, bool b => decide (a = b)
  | int m, int n => decide (m = n)
  | real x, real y => decide (x = y)
  | str s, str t => decide (s = t)
  | arr as, arr bs => sameItems as bs
  | obj fs, obj gs => sameFields fs gs
  | illegible, illegible => true
  | _, _ => false

/-- Whether two lists of documents are the same. -/
def sameItems : List Json → List Json → Bool
  | [], [] => true
  | a :: as, b :: bs => same a b && sameItems as bs
  | _, _ => false

/-- Whether two lists of fields are the same. -/
def sameFields : Fields → Fields → Bool
  | [], [] => true
  | f :: fs, g :: gs => decide (f.1 = g.1) && same f.2 g.2 && sameFields fs gs
  | _, _ => false

end

mutual

theorem same_iff : (a b : Json) → (same a b = true ↔ a = b)
  | null, b => by cases b <;> simp [same]
  | bool _, b => by cases b <;> simp [same]
  | int _, b => by cases b <;> simp [same]
  | real _, b => by cases b <;> simp [same]
  | str _, b => by cases b <;> simp [same]
  | arr as, b => by
    cases b with
    | arr bs => simp [same, sameItems_iff as bs]
    | _ => simp [same]
  | obj fs, b => by
    cases b with
    | obj gs => simp [same, sameFields_iff fs gs]
    | _ => simp [same]
  | illegible, b => by cases b <;> simp [same]

theorem sameItems_iff : (as bs : List Json) → (sameItems as bs = true ↔ as = bs)
  | [], bs => by cases bs <;> simp [sameItems]
  | a :: as, bs => by
    cases bs with
    | nil => simp [sameItems]
    | cons b bs => simp [sameItems, same_iff a b, sameItems_iff as bs]

theorem sameFields_iff : (fs gs : Fields) → (sameFields fs gs = true ↔ fs = gs)
  | [], gs => by cases gs <;> simp [sameFields]
  | f :: fs, gs => by
    cases gs with
    | nil => simp [sameFields]
    | cons g gs => simp [sameFields, same_iff f.2 g.2, sameFields_iff fs gs, Prod.ext_iff]

end

instance : DecidableEq Json := fun a b => decidable_of_iff _ (same_iff a b)

/-! ### Legibility and nesting -/

mutual

/-- Whether every part stands for a value. -/
def legible : Json → Bool
  | arr items => legibleItems items
  | obj fs => legibleFields fs
  | illegible => false
  | _ => true

/-- Whether all these documents are legible. -/
def legibleItems : List Json → Bool
  | [] => true
  | j :: js => j.legible && legibleItems js

/-- Whether the values of all these fields are legible. -/
def legibleFields : Fields → Bool
  | [] => true
  | f :: fs => f.2.legible && legibleFields fs

end

mutual

/-- How deep arrays and objects are nested in the document, itself included. -/
def height : Json → Nat
  | arr items => heightOfItems items + 1
  | obj fs => heightOfFields fs + 1
  | _ => 0

/-- The height of the highest document. -/
def heightOfItems : List Json → Nat
  | [] => 0
  | j :: js => max j.height (heightOfItems js)

/-- The height of the highest value. -/
def heightOfFields : Fields → Nat
  | [] => 0
  | f :: fs => max f.2.height (heightOfFields fs)

end

/-- How deep a document may be nested where all of it has to be understood. -/
def deepest : Nat := 127

/-- Whether all of the document, which lies in `depth` arrays and objects, can be understood. -/
def isValueAt (depth : Nat) (j : Json) : Bool := j.legible && decide (depth + j.height ≤ deepest)

/-! ### Fields -/

/-- The value of a field. Of several values under one key the last one counts. -/
def Fields.get? (fs : Fields) (key : String) : Option Json :=
  (List.find? (fun f => decide (f.1 = key)) (List.reverse fs)).map (·.2)

/-- All values under a key, in their order. -/
def Fields.all (fs : Fields) (key : String) : List Json :=
  List.filterMap (fun f => if f.1 = key then some f.2 else none) fs

/-- The value at this key, if the document is an object that has one. -/
def get? (j : Json) (key : String) : Option Json :=
  match j with
  | obj fs => Fields.get? fs key
  | _ => none

def str? : Json → Option String
  | str s => some s
  | _ => none

def bool? : Json → Option Bool
  | bool b => some b
  | _ => none

/-- The items of an array; anything else has none. -/
def items : Json → List Json
  | arr items => items
  | _ => []

/-- The fields of an object; anything else has none. -/
def fields : Json → Fields
  | obj fs => fs
  | _ => []

/-- The text at this key, if there is one. -/
def text? (j : Json) (key : String) : Option String := (j.get? key).bind str?

end Json

end RingKeeper
