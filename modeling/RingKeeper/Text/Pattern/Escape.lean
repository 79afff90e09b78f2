import RingKeeper.Text.Pattern.Flags

/-!
# Escapes

Behind a backslash stand characters that would mean something else without it, characters by number,
sets by name, and conditions on a place.
-/

namespace RingKeeper.Text.Pattern

/-- What an escape stands for. -/
inductive Escape where
  | literal (c : Char)
  | set (s : CharSet)
  | look (l : Look)
deriving DecidableEq, Repr

/-! ### Characters by number -/

def hexDigit? (c : Char) : Option Nat :=
  if c.isDigit then some (c.toNat - '0'.toNat)
  else if 'a' ≤ c && c ≤ 'f' then some (c.toNat - 'a'.toNat + 10)
  else if 'A' ≤ c && c ≤ 'F' then some (c.toNat - 'A'.toNat + 10)
  else none

/-- The character with this number, in digits to base sixteen. -/
def charOfHex? (ds : List Char) : Option Char := do
  let n := (← ds.mapM hexDigit?).foldl (fun n d => 16 * n + d) 0
  if ds.isEmpty || !n.isValidChar then none else some (Char.ofNat n)

/-- So many characters, with blanks and comments between and behind them. -/
def digits (f : Flags) : (n : Nat) → List Char → List Char × List Char
  | 0, s => ([], s)
  | _ + 1, [] => ([], [])
  | n + 1, c :: s =>
    let (cs, s) := digits f n (f.skip s)
    (c :: cs, s)

/-- The text in braces, behind the opening one, and what is left. -/
def inBraces? (f : Flags) (s : List Char) : Option (List Char × List Char) :=
  match f.run (· ≠ '\x7d') false s with
  | (name, _ :: s) => some (name, s)
  | (_, []) => none

/-- A character by its number: so many digits, or any number of them in braces. -/
def charByNumber? (f : Flags) (n : Nat) (s : List Char) : Option (Char × List Char) :=
  match f.skip s with
  | '\x7b' :: s => do
    let (ds, s) ← inBraces? f s
    some (← charOfHex? ds, f.skip s)
  | s =>
    let (ds, s) := digits f n s
    if ds.length < n then none else (charOfHex? ds).map fun c => (c, s)

/-! ### Sets by name -/

/-- The two sides of the first place where a text has this part. -/
def splitAt? (part : List Char) : List Char → Option (List Char × List Char)
  | [] => none
  | c :: s =>
    if part.isPrefixOf (c :: s) then some ([], (c :: s).drop part.length)
    else (splitAt? part s).map fun (before, after) => (c :: before, after)

/-- The set that a name in braces stands for. All three signs put a value behind a property. -/
def setOfName? (name : List Char) : Option CharSet :=
  match splitAt? ['!', '='] name <|> splitAt? [':'] name <|> splitAt? ['='] name with
  | some (property, value) => CharSet.valued? property value
  | none => CharSet.named? name

/-- A set by its name, or by a name of one letter without braces. -/
def namedSet? (f : Flags) (negated : Bool) (s : List Char) : Option (CharSet × List Char) := do
  let (set, s) ←
    match f.skip s with
    | [] => none
    | '\\' :: _ => none
    | '\x7b' :: s => do
      let (name, s) ← inBraces? f s
      some (← setOfName? name, s)
    | c :: s => do some (← CharSet.named? [c], f.skip s)
  if f.ascii then none else some (← f.negated? negated (f.sameCase set), s)

/-! ### Conditions -/

/-- The edges of words that have a name. -/
def edges : List (String × WordEdge) :=
  [("start", .first), ("end", .last), ("start-half", .notBehind), ("end-half", .notAhead)]

def isEdgeLetter (c : Char) : Bool := c.isAlpha || c = '-'

/-- The edge of a word, which may be named in braces. Braces that do not begin with a letter are a
repetition. -/
def edge? (f : Flags) : List Char → Option (Look × List Char)
  | '\x7b' :: s => do
    let inner := f.skip s
    let c ← inner.head?
    if isEdgeLetter c then
      match f.run isEdgeLetter false inner with
      | (name, '\x7d' :: s) => do
        let (_, e) ← edges.find? fun e => decide (e.1 = String.ofList name)
        some (f.edge e, s)
      | _ => none
    else some (f.edge .change, '\x7b' :: s)
  | s => some (f.edge .change, s)

/-! ### All escapes -/

/-- Whether the character stands for itself behind a backslash. -/
def isEscapable (c : Char) : Bool :=
  decide (c.toNat < 128) && !c.isAlphanum && c ≠ '<' && c ≠ '>'

/-- The characters that have a letter. -/
def controlOf? : Char → Option Char
  | 'a' => some '\x07'
  | 'f' => some '\x0c'
  | 't' => some '\t'
  | 'n' => some '\n'
  | 'r' => some '\r'
  | 'v' => some '\x0b'
  | _ => none

/-- The conditions that have a character, apart from the edges of words that may have a name. -/
def lookOf? (f : Flags) : Char → Option Look
  | 'A' => some .textStart
  | 'z' => some .textEnd
  | 'B' => some (f.edge .noChange)
  | '<' => some (f.edge .first)
  | '>' => some (f.edge .last)
  | _ => none

/-- A character by a number of two digits has to be one of ASCII where all others are. -/
def isAllowed (f : Flags) (s : List Char) (c : Char) : Bool :=
  !f.ascii || decide (c.toNat < 128) || (f.skip s).head? = some '\x7b'

/-- What a backslash and the text behind it stand for, and what is left. -/
def escape? (f : Flags) : List Char → Option (Escape × List Char)
  | [] => none
  | 'x' :: s => do
    let (c, left) ← charByNumber? f 2 s
    if isAllowed f s c then some (.literal c, left) else none
  | 'u' :: s => (charByNumber? f 4 s).map fun (c, s) => (.literal c, s)
  | 'U' :: s => (charByNumber? f 8 s).map fun (c, s) => (.literal c, s)
  | 'p' :: s => (namedSet? f false s).map fun (set, s) => (.set set, s)
  | 'P' :: s => (namedSet? f true s).map fun (set, s) => (.set set, s)
  | 'b' :: s => (edge? f s).map fun (l, s) => (.look l, s)
  | c :: s =>
    let set? : Option CharSet :=
      (f.classOf? c) <|> do f.negated? true (← if c.isUpper then f.classOf? c.toLower else none)
    let meaning : Option Escape :=
      (controlOf? c).map .literal <|> (lookOf? f c).map .look <|> set?.map .set
        <|> if isEscapable c then some (.literal c) else none
    meaning.map fun e => (e, s)

example : escape? {} "x4a1".toList = some (.literal 'J', ['1']) := by decide
example : escape? {} "x\x7b4 a\x7d".toList = none := by decide
example : escape? {} "1".toList = none := by decide

end RingKeeper.Text.Pattern
