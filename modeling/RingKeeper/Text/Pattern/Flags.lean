import RingKeeper.Text.Blank
import RingKeeper.Text.Character.Folding
import RingKeeper.Text.Character.Name
import RingKeeper.Text.Pattern.Basic

/-!
# Flags of patterns

Flags change how a pattern is read: which characters are the same, where anchors hold, and whether
blanks and comments may stand between the parts of a pattern. They are written as letters, and those
behind a dash are turned off.
-/

namespace RingKeeper.Text.Pattern

/-- How a part of a pattern is read. -/
structure Flags where
  ignoresCase : Bool := false
  /-- Whether anchors also hold at the ends of lines. -/
  ofLines : Bool := false
  /-- Whether a dot is also a line end. -/
  dotIsAny : Bool := false
  /-- Whether a carriage return ends a line, too. -/
  orReturn : Bool := false
  /-- Whether blanks and comments are left out. -/
  spaced : Bool := false
  /-- Whether classes and sets have ASCII characters only. -/
  ascii : Bool := false
deriving DecidableEq, Repr

namespace Flags

/-- Turns a flag on or off. What a repetition prefers makes no difference to whether it is found. -/
def set? (f : Flags) (on : Bool) : Char → Option Flags
  | 'i' => some { f with ignoresCase := on }
  | 'm' => some { f with ofLines := on }
  | 's' => some { f with dotIsAny := on }
  | 'R' => some { f with orReturn := on }
  | 'x' => some { f with spaced := on }
  | 'u' => some { f with ascii := !on }
  | 'U' => some f
  | _ => none

/-- Reads flags up to a colon or a closing bracket, which is handed back with the text behind it.
Nothing stands there twice, of what has been read so far, latest first, and no dash at the end. -/
def read? (f : Flags) (on : Bool) (sofar : List Char) : List Char → Option (Flags × Char × List Char)
  | [] => none
  | c :: s =>
    if c = ':' ∨ c = ')' then
      if sofar.head? = some '-' ∨ c = ')' ∧ sofar.isEmpty then none else some (f, c, s)
    else if sofar.contains c then none
    else if c = '-' then read? f false (c :: sofar) s
    else do read? (← f.set? on c) on (c :: sofar) s

example : (read? {} true [] "i-s:a".toList).map (·.2) = some (':', ['a']) := by decide
example : read? {} true [] "i-:a".toList = none := by decide

/-! ### Blanks and comments -/

/-- The longest run of these characters, without the blanks and comments in it. -/
def run (f : Flags) (holds : Char → Bool) : (inComment : Bool) → List Char → List Char × List Char
  | _, [] => ([], [])
  | true, c :: s => run f holds (c ≠ '\n') s
  | false, c :: s =>
    if f.spaced && isBlank c then run f holds false s
    else if f.spaced && c = '#' then run f holds true s
    else if holds c then
      let (cs, s) := run f holds false s
      (c :: cs, s)
    else ([], c :: s)

/-- The text behind blanks and comments. -/
def skip (f : Flags) (s : List Char) : List Char := (f.run (fun _ => false) false s).2

example : ({ spaced := true } : Flags).run Char.isDigit false "1 2# 3\n4 a".toList
    = (['1', '2', '4'], ['a']) := by decide +kernel
example : ({} : Flags).skip " a".toList = [' ', 'a'] := by decide

/-! ### Sets of characters -/

/-- A set with what counts as the same. -/
def sameCase (f : Flags) (s : CharSet) : CharSet :=
  if f.ignoresCase then if f.ascii then s.ignoringAsciiCase else s.ignoringCase else s

/-- A set or what is not in it. Among ASCII characters only there is nothing but the set. -/
def negated? (f : Flags) (negated : Bool) (s : CharSet) : Option CharSet :=
  if negated then if f.ascii then none else some s.rest else some s

/-- The classes with a letter. -/
def classOf? (f : Flags) : Char → Option CharSet
  | 'd' => some (if f.ascii then .asciiDigits else .digits)
  | 's' => some (if f.ascii then .asciiBlanks else .blanks)
  | 'w' => some (if f.ascii then .asciiWordCharacters else .wordCharacters)
  | _ => none

/-- Any character; line ends only where they count. -/
def dot? (f : Flags) : Option CharSet :=
  let lineEnds : CharSet :=
    if f.dotIsAny then .empty else if f.orReturn then .ofTable "A D" else .ofTable "A"
  f.negated? true lineEnds

def lineStart (f : Flags) : Look := if f.ofLines then .lineStart f.orReturn else .textStart

def lineEnd (f : Flags) : Look := if f.ofLines then .lineEnd f.orReturn else .textEnd

def edge (f : Flags) (e : WordEdge) : Look :=
  .word e (if f.ascii then .asciiWordCharacters else .wordCharacters)

end Flags

end RingKeeper.Text.Pattern
