import RingKeeper.Text.Pattern.Escape

/-!
# Sets in brackets

A set in brackets lists characters, ranges of them, classes, and other sets in brackets. Operators
between such lists take what is in both, what is in the first one only, or what is in one of the two
only; they all bind alike, from left to right.
-/

namespace RingKeeper.Text.Pattern

/-- What has been read, with the number of levels that are nested in it. -/
structure Nested (α : Type) where
  value : α
  depth : Nat
deriving DecidableEq, Repr

/-- The depth of things side by side. Several of them make a level of their own. -/
def depthOf : List Nat → Nat
  | [] => 0
  | [d] => d
  | ds => ds.foldl max 0 + 1

inductive SetOperator where
  | inter
  | diff
  | symmDiff
deriving DecidableEq, Repr

namespace SetOperator

def apply : SetOperator → CharSet → CharSet → CharSet
  | inter => CharSet.inter
  | diff => CharSet.diff
  | symmDiff => CharSet.symmDiff

/-- The operator at the start of a text, and what is left. -/
def read? : List Char → Option (SetOperator × List Char)
  | '&' :: '&' :: s => some (inter, s)
  | '-' :: '-' :: s => some (diff, s)
  | '~' :: '~' :: s => some (symmDiff, s)
  | _ => none

end SetOperator

/-! ### Classes -/

/-- The classes that may be named in brackets and colons. -/
def classes : List (String × String) := [
  ("alnum", "30-39 41-5A 61-7A"), ("alpha", "41-5A 61-7A"), ("ascii", "0-7F"), ("blank", "9 20"),
  ("cntrl", "0-1F 7F"), ("digit", "30-39"), ("graph", "21-7E"), ("lower", "61-7A"),
  ("print", "20-7E"), ("punct", "21-2F 3A-40 5B-60 7B-7E"), ("space", "9-D 20"),
  ("upper", "41-5A"), ("word", "30-39 41-5A 5F 61-7A"), ("xdigit", "30-39 41-46 61-66")]

/-- A class behind an opening bracket, whether it is negated, and what is left. -/
def class? : List Char → Option (Bool × CharSet × List Char)
  | ':' :: s =>
    let (negated, s) :=
      match s with
      | '^' :: s => (true, s)
      | s => (false, s)
    match s.dropWhile (· ≠ ':') with
    | ':' :: ']' :: rest =>
      (classes.find? fun e => decide (e.1.toList = s.takeWhile (· ≠ ':'))).map fun e =>
        (negated, .ofTable e.2, rest)
    | _ => none
  | _ => none

/-! ### Items -/

/-- The next character that counts, behind at most one comment sign, or else the very next one. -/
def peek (f : Flags) (s : List Char) : Option Char :=
  if f.spaced then
    match skipBlanks s with
    | '#' :: t => (skipBlanks t).head? <|> s.head?
    | t => t.head? <|> s.head?
  else s.head?

/-- A character or an escape. -/
def item? (f : Flags) : List Char → Option (Escape × List Char)
  | [] => none
  | '\\' :: s => escape? f s
  | c :: s => some (.literal c, s)

/-- The characters from the first to the last one. -/
def between? (f : Flags) (first last : Char) : Option CharSet :=
  if first ≤ last ∧ (!f.ascii || decide (last.toNat < 128)) then
    some (.between first.toNat last.toNat)
  else none

/-- The set that an item is for itself. -/
def setOf? (f : Flags) : Escape → Option CharSet
  | .literal c => between? f c c
  | .set s => some s
  | .look _ => none

/-- An item, or a range between two characters. A dash before a closing bracket or before another
dash makes no range. -/
def range? (f : Flags) (s : List Char) : Option (CharSet × List Char) := do
  let (first, s) ← item? f s
  match f.skip s with
  | '-' :: t =>
    if peek f t = some ']' ∨ peek f t = some '-' then some (← setOf? f first, '-' :: t)
    else
      let (last, s) ← item? f (f.skip t)
      match first, last with
      | .literal c, .literal d => some (← between? f c d, s)
      | _, _ => none
  | s => some (← setOf? f first, s)

/-! ### Brackets -/

/-- What stands at the start of a set: whether it is negated, dashes, and a closing bracket that is
in the set. -/
def start (f : Flags) (s : List Char) : Bool × List (Nested CharSet) × List Char :=
  let (negated, s) :=
    match f.skip s with
    | '^' :: s => (true, f.skip s)
    | s => (false, s)
  match f.run (· = '-') false s with
  | ([], ']' :: s) => (negated, [⟨.single ']'.toNat, 0⟩], s)
  | (dashes, s) => (negated, dashes.map fun c => ⟨.single c.toNat, 0⟩, s)

/-- The set of all items, joined to what is left of it. -/
def joined (f : Flags) (left : Option (SetOperator × Nested CharSet)) (items : List (Nested CharSet)) :
    Nested CharSet :=
  let right : Nested CharSet := ⟨.unions (items.map (·.value)), depthOf (items.map (·.depth))⟩
  match left with
  | none => right
  | some (op, l) =>
    ⟨op.apply (f.sameCase l.value) (f.sameCase right.value), depthOf [l.depth, right.depth]⟩

/-- The set when its closing bracket has been read. -/
def closedSet? (f : Flags) (negated : Bool) (n : Nested CharSet) : Option (Nested CharSet) :=
  (f.negated? negated (f.sameCase n.value)).map fun s => ⟨s, n.depth + 1⟩

/-- Reads items up to a closing bracket, with what is left of the last operator. -/
def items? (f : Flags) : (fuel : Nat) → (left : Option (SetOperator × Nested CharSet)) →
    List (Nested CharSet) → List Char → Option (Nested CharSet × List Char)
  | 0, _, _, _ => none
  | fuel + 1, left, items, s =>
    match f.skip s with
    | [] => none
    | ']' :: s => some (joined f left items, s)
    | '[' :: s => do
      match class? s with
      | some (negated, set, s) =>
        let set ← f.negated? negated (f.sameCase set)
        items? f fuel left (⟨set, 0⟩ :: items) s
      | none =>
        let (negated, first, s) := start f s
        let (n, s) ← items? f fuel none first s
        items? f fuel left ((← closedSet? f negated n) :: items) s
    | s =>
      match SetOperator.read? s with
      | some (op, s) => items? f fuel (some (op, joined f left items)) [] s
      | none => do
        let (set, s) ← range? f s
        items? f fuel left (⟨set, 0⟩ :: items) s

/-- Reads a set behind its opening bracket. -/
def bracket? (f : Flags) (s : List Char) : Option (Nested CharSet × List Char) := do
  let (negated, first, s) := start f s
  let (n, s) ← items? f (s.length + 1) none first s
  some (← closedSet? f negated n, s)

example : (bracket? {} "a-c-]d".toList).map (·.2) = some ['d'] := by decide +kernel
example : bracket? {} "\\d-z]".toList = none := by decide +kernel

end RingKeeper.Text.Pattern
