import RingKeeper.Text.CharSet.Basic

/-!
# Patterns

A pattern describes texts. It is looked for anywhere in a text; which of several places it is found
at, and how much of the text it takes, does not matter. So a pattern is a relation between the places
of a text: from where it begins to where it may end.

The relation is kept as one number for each place. Its binary digits say where the pattern may end,
the lowest digit for the place itself, the next one for the place one character further, and so on.
-/

namespace RingKeeper.Text

/-- Where a place is, next to a word. -/
inductive WordEdge where
  /-- A word begins or ends here. -/
  | change
  | noChange
  | first
  | last
  /-- No word reaches here from before. -/
  | notBehind
  | notAhead
deriving DecidableEq, Repr

/-- A condition on a place. Lines may also end in a carriage return, alone or before the line feed. -/
inductive Look where
  | textStart
  | textEnd
  | lineStart (orReturn : Bool)
  | lineEnd (orReturn : Bool)
  | word (edge : WordEdge) (characters : CharSet)
deriving DecidableEq, Repr

inductive Pattern where
  /-- The empty text. -/
  | empty
  | char (set : CharSet)
  | look (l : Look)
  | seq (p q : Pattern)
  | either (p q : Pattern)
  /-- The pattern at least so many times, and perhaps at most so many. -/
  | repeated (p : Pattern) (least : Nat) (most : Option Nat)
  /-- The pattern, where the part of the text that it takes is of interest. -/
  | group (p : Pattern)
deriving DecidableEq, Repr

/-- A place in a text: the characters on both sides of it. -/
structure Place where
  before : Option Char
  after : Option Char
deriving DecidableEq, Repr

namespace Place

/-- All places of a text, from this one on. -/
def onward (before : Option Char) : List Char → List Place
  | [] => [⟨before, none⟩]
  | c :: s => ⟨before, some c⟩ :: onward (some c) s

def isLineStart (orReturn : Bool) (p : Place) : Bool :=
  p.before.all (· = '\n')
    || orReturn && decide (p.before = some '\r') && decide (p.after ≠ some '\n')

def isLineEnd (orReturn : Bool) (p : Place) : Bool :=
  match p.after with
  | none => true
  | some '\n' => !(orReturn && decide (p.before = some '\r'))
  | some c => orReturn && decide (c = '\r')

/-- Whether a place is at this edge, given whether a word character is before and after it. -/
def isAtEdge (before after : Bool) : WordEdge → Bool
  | .change => before != after
  | .noChange => before == after
  | .first => !before && after
  | .last => before && !after
  | .notBehind => !before
  | .notAhead => !after

def meets (p : Place) : Look → Bool
  | .textStart => p.before.isNone
  | .textEnd => p.after.isNone
  | .lineStart orReturn => p.isLineStart orReturn
  | .lineEnd orReturn => p.isLineEnd orReturn
  | .word edge characters =>
    isAtEdge (p.before.any characters.holds) (p.after.any characters.holds) edge

end Place

/-! ### Relations between places -/

namespace Reach

/-- From each place to itself. -/
def still (ps : List Place) : List Nat := ps.map fun _ => 1

def union (r t : List Nat) : List Nat := List.zipWith Nat.lor r t

/-- Keeps what begins where the condition is met. -/
def provided (holds : Place → Bool) (ps : List Place) (r : List Nat) : List Nat :=
  List.zipWith (fun p ends => if holds p then ends else 0) ps r

/-- One character of the set, and then the relation. -/
def step (set : CharSet) : List Place → List Nat → List Nat
  | p :: ps, _ :: r =>
    (if p.after.any set.holds then r.headD 0 <<< 1 else 0) :: step set ps r
  | _, _ => []

/-- Where the relation leads to from the places that these digits stand for, of those from here on. -/
def spread : (ends : Nat) → List Nat → Nat
  | 0, _ => 0
  | _, [] => 0
  | ends, here :: r => (if ends % 2 = 1 then here else 0) ||| spread (ends / 2) r <<< 1

/-- One relation and then the other. -/
def andThen : List Nat → List Nat → List Nat
  | ends :: r, here :: t => spread ends (here :: t) :: andThen r t
  | _, _ => []

/-- One relation any number of times and then the other. What leads nowhere adds nothing. -/
def manyThen : List Nat → List Nat → List Nat
  | ends :: r, here :: t =>
    let later := manyThen r t
    (here ||| spread (ends / 2) later <<< 1) :: later
  | _, _ => []

/-- One relation so many times and then the other. More steps than places make no difference. -/
def timesThen (r : List Nat) (n : Nat) (t : List Nat) : List Nat :=
  Nat.repeat (andThen r) (min n t.length) t

/-- One relation up to so many times and then the other. -/
def upToThen (r : List Nat) (n : Nat) (t : List Nat) : List Nat :=
  Nat.repeat (fun u => union t (andThen r u)) (min n t.length) t

end Reach

namespace Pattern

/-- The pattern and then a relation, by the places of a text. -/
def andThen (ps : List Place) : Pattern → List Nat → List Nat
  | empty, r => r
  | char set, r => Reach.step set ps r
  | look l, r => Reach.provided (·.meets l) ps r
  | seq p q, r => p.andThen ps (q.andThen ps r)
  | either p q, r => Reach.union (p.andThen ps r) (q.andThen ps r)
  | repeated p least most, r =>
    let once := p.andThen ps (Reach.still ps)
    let further :=
      match most with
      | none => Reach.manyThen once r
      | some most => Reach.upToThen once (most - least) r
    Reach.timesThen once least further
  | group p, r => p.andThen ps r

/-- Whether the pattern describes some part of the text. -/
def isIn (p : Pattern) (text : String) : Bool :=
  let ps := Place.onward none text.toList
  (p.andThen ps (Reach.still ps)).any (· ≠ 0)

/-- The first pattern and then the second one. -/
def followedBy : Pattern → Pattern → Pattern
  | empty, q => q
  | p, empty => p
  | p, q => seq p q

/-- Whether the pattern is of one character. -/
def set? : Pattern → Option CharSet
  | char set => some set
  | _ => none

/-- One of the patterns, of which there is at least one. -/
def oneOf : List Pattern → Pattern
  | [] => empty
  | [p] => p
  | p :: q :: ps => either p (oneOf (q :: ps))

/-- One of the patterns. Single characters make one set. -/
def merged (ps : List Pattern) : Pattern :=
  match ps.mapM set? with
  | some sets => char (.unions sets)
  | none => oneOf ps

/-- Whether the pattern only describes the empty text. -/
def isVoid : Pattern → Bool
  | empty => true
  | char _ => false
  | look _ => true
  | seq p q => p.isVoid && q.isVoid
  | either p q => p.isVoid && q.isVoid
  | repeated p _ most => most = some 0 || p.isVoid
  | group p => p.isVoid

/-- Whether the pattern also describes the empty text. -/
def mayBeVoid : Pattern → Bool
  | empty => true
  | char _ => false
  | look _ => true
  | seq p q => p.mayBeVoid && q.mayBeVoid
  | either p q => p.mayBeVoid || q.mayBeVoid
  | repeated p least _ => least = 0 || p.mayBeVoid
  | group p => p.mayBeVoid

/-- The pattern a number of times. What is always empty is the same once as many times. -/
def times (p : Pattern) (least : Nat) (most : Option Nat) : Pattern :=
  let (least, most) :=
    if p.isVoid then (min least 1, some (most.elim 1 (min 1))) else (least, most)
  if most = some 0 then empty
  else if least = 1 ∧ most = some 1 then p
  else repeated p least most

example : (seq (char (.single 97)) (repeated (char (.single 98)) 1 none)).isIn "cabb" = true := by
  decide +kernel
example : (seq (char (.single 97)) (look .textEnd)).isIn "cabb" = false := by decide +kernel

end Pattern

end RingKeeper.Text
