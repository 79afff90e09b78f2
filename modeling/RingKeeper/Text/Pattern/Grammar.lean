import RingKeeper.Text.Pattern.Bracket
import RingKeeper.Text.Pattern.Size

/-!
# The written form of patterns

Characters stand for themselves but for the usual operators: alternatives, repetitions, groups, sets
of characters, anchors, and escapes. Flags in a group change how what follows is read. What cannot
be read is no pattern, and neither is what is nested too deeply or too large.
-/

namespace RingKeeper.Text.Pattern

/-! ### Repetitions -/

/-- The numbers of repetitions are less than this. -/
def countBound : Nat := Nat.pow 2 32

/-- A number with the blanks around it, and what is left. -/
def number? (f : Flags) (s : List Char) : Option Nat × List Char :=
  let (ds, s) := f.run Char.isDigit false (skipBlanks s)
  let n := ds.foldl (fun n d => 10 * n + (d.toNat - '0'.toNat)) 0
  (if ds.isEmpty || countBound ≤ n then none else some n, skipBlanks s)

/-- The numbers of a repetition behind its opening brace, and what is left. -/
def counts? (f : Flags) (s : List Char) : Option (Nat × Option Nat × List Char) := do
  let (least, s) := number? f (f.skip s)
  let least ← least
  match s with
  | ',' :: s =>
    match f.skip s with
    | '\x7d' :: s => some (least, none, s)
    | s =>
      match number? f s with
      | (some most, '\x7d' :: s) => if least ≤ most then some (least, some most, s) else none
      | _ => none
  | '\x7d' :: s => some (least, some least, s)
  | _ => none

/-- Whether a repetition takes more or less first makes no difference. -/
def skipPreference : List Char → List Char
  | '?' :: s => s
  | s => s

def startsRepetition (c : Char) : Bool := c = '*' || c = '+' || c = '?' || c = '\x7b'

/-- The numbers of a repetition that begins with this character, and what is left. -/
def repetition? (f : Flags) (c : Char) (s : List Char) : Option (Nat × Option Nat × List Char) :=
  if c = '*' then some (0, none, skipPreference s)
  else if c = '+' then some (1, none, skipPreference s)
  else if c = '?' then some (0, some 1, skipPreference s)
  else do
    let (least, most, s) ← counts? f s
    some (least, most, skipPreference (f.skip s))

/-! ### Groups -/

/-- What an opening bracket begins. -/
inductive Opening where
  /-- Flags for the rest of the group around it. -/
  | rest (f : Flags)
  | group (f : Flags)
  /-- A group of interest, perhaps with a name. -/
  | capture (name : List Char)

/-- Letters of any script. -/
def isLetter (c : Char) : Bool := c.isAlpha || (Property.set .alphabetic).holds c

def isNameChar (c : Char) : Bool :=
  isLetter c || c.isDigit || ['_', '.', '[', ']'].contains c || (Category.sets Category.numbers).holds c

/-- The name of a group and the text behind it. -/
def name? (s : List Char) : Option (List Char × List Char) :=
  match s.takeWhile (· ≠ '>'), s.dropWhile (· ≠ '>') with
  | c :: name, _ :: rest =>
    if (isLetter c || c = '_') && name.all isNameChar then some (c :: name, rest) else none
  | _, _ => none

/-- Reads what stands behind an opening bracket. -/
def opening? (f : Flags) : List Char → Option (Opening × List Char)
  | '?' :: 'P' :: '<' :: s => (name? s).map fun (name, s) => (.capture name, s)
  | '?' :: '<' :: s => (name? s).map fun (name, s) => (.capture name, s)
  | '?' :: s => do
    let (g, c, s) ← f.read? true [] s
    some (if c = ':' then .group g else .rest g, s)
  | s => some (.capture [], s)

/-! ### Alternatives -/

/-- A part of a pattern. Flags for the rest of a group are one that cannot be repeated. -/
abbrev Part := Option (Nested Pattern)

/-- The parts one after the other, of which the latest comes first here. -/
def sequence (ps : List Part) : Nested Pattern :=
  ⟨ps.foldl (fun q p => (p.map (·.value)).elim q (·.followedBy q)) empty,
    depthOf (ps.map fun p => (p.map (·.depth)).getD 0)⟩

/-- The alternatives, of which the last one has the parts `ps`. The latest comes first here. -/
def closed (as : List (Nested Pattern)) (ps : List Part) : Nested Pattern :=
  let all := (sequence ps :: as).reverse
  ⟨merged (all.map (·.value)), depthOf (all.map (·.depth))⟩

/-- A character, an anchor or an escape at the start of a text. -/
def single? (f : Flags) : List Char → Option (Pattern × List Char)
  | [] => none
  | '.' :: s => f.dot?.map fun set => (char set, s)
  | '^' :: s => some (look f.lineStart, s)
  | '$' :: s => some (look f.lineEnd, s)
  | '\\' :: s => (escape? f s).map fun (e, s) =>
      match e with
      | .literal c => (char (f.sameCase (.single c.toNat)), s)
      | .set set => (char set, s)
      | .look l => (look l, s)
  | c :: s => some (char (f.sameCase (.single c.toNat)), s)

/-- Reads alternatives up to a closing bracket or to the end. The names of groups are handed on,
because no two groups have the same name. -/
def alternatives? : (fuel : Nat) → Flags → (names : List (List Char)) → List (Nested Pattern) →
    List Part → List Char → Option (Nested Pattern × List (List Char) × List Char)
  | 0, _, _, _, _, _ => none
  | fuel + 1, f, names, as, ps, s =>
    match f.skip s with
    | [] => some (closed as ps, names, [])
    | c :: s =>
      if c = ')' then some (closed as ps, names, c :: s)
      else if c = '|' then alternatives? fuel f names (sequence ps :: as) [] s
      else if startsRepetition c then
        match ps with
        | some p :: ps => do
          let (least, most, s) ← repetition? f c s
          let p : Nested Pattern := ⟨p.value.times least most, p.depth + 1⟩
          alternatives? fuel f names as (some p :: ps) s
        | _ => none
      else if c = '(' then do
        match ← opening? f (f.skip s) with
        | (.rest g, s) => alternatives? fuel g names as (none :: ps) s
        | (.group g, s) =>
          match ← alternatives? fuel g names [] [] s with
          | (p, names, ')' :: s) =>
            alternatives? fuel f names as (some ⟨p.value, p.depth + 1⟩ :: ps) s
          | _ => none
        | (.capture name, s) =>
          if names.contains name then none
          else
            match ← alternatives? fuel f (if name.isEmpty then names else name :: names) [] [] s with
            | (p, names, ')' :: s) =>
              alternatives? fuel f names as (some ⟨group p.value, p.depth + 1⟩ :: ps) s
            | _ => none
      else if c = '[' then do
        let (set, s) ← bracket? f s
        alternatives? fuel f names as (some ⟨char set.value, set.depth⟩ :: ps) s
      else do
        let (p, s) ← single? f (c :: s)
        alternatives? fuel f names as (some ⟨p, 0⟩ :: ps) s

/-- How deeply a pattern may be nested. -/
def mostDepth : Nat := 250

/-- The pattern that a text is the written form of. -/
def ofText? (text : String) : Option Pattern := do
  let (p, _, rest) ← alternatives? (text.length + 1) {} [] [] [] text.toList
  if rest.isEmpty ∧ p.depth ≤ mostDepth ∧ p.value.isSmall then some p.value else none

end RingKeeper.Text.Pattern
