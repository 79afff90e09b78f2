import RingKeeper.Json.Number

/-!
# Tokens of JSON texts

A text falls into marks, words, numbers and quoted texts, with blanks of four sorts between them. It
is read character by character. Half a surrogate pair leaves a quoted text without value; control
characters, unknown escapes and unknown words make the text no JSON.
-/

namespace RingKeeper.Json

inductive Token where
  | openObject
  | closeObject
  | openArray
  | closeArray
  | colon
  | comma
  /-- A word or a number. -/
  | plain (value : Json)
  /-- A quoted text, if it stands for one. -/
  | quoted (text : Option String)
deriving DecidableEq

/-- A quoted text that has begun. -/
structure Quote where
  /-- The characters so far, latest first. -/
  begun : List Char := []
  /-- The first half of a surrogate pair right before. -/
  half : Option Nat := none
  /-- Whether some half stayed alone. -/
  broken : Bool := false
deriving DecidableEq

namespace Quote

/-- Whether the number is the first half of a surrogate pair. -/
def isFirstHalf (n : Nat) : Bool := 0xD800 ≤ n && n ≤ 0xDBFF

def isSecondHalf (n : Nat) : Bool := 0xDC00 ≤ n && n ≤ 0xDFFF

/-- The code point of a surrogate pair. -/
def ofHalves (first second : Nat) : Nat := 0x10000 + (first - 0xD800) * 0x400 + (second - 0xDC00)

/-- Adds a character. -/
def push (q : Quote) (c : Char) : Quote :=
  { begun := c :: q.begun, half := none, broken := q.broken || q.half.isSome }

/-- Adds what an escape with this number stands for. -/
def pushUnit (q : Quote) (n : Nat) : Quote :=
  if isFirstHalf n then { q with half := some n, broken := q.broken || q.half.isSome }
  else if isSecondHalf n then
    match q.half with
    | some first => { q with begun := Char.ofNat (ofHalves first n) :: q.begun, half := none }
    | none => { q with broken := true }
  else q.push (Char.ofNat n)

/-- The text, when the quote ends here. -/
def text? (q : Quote) : Option String :=
  if q.broken || q.half.isSome then none else some (String.ofList q.begun.reverse)

end Quote

/-- What is being read. -/
inductive Reading where
  | fresh
  | word (begun : List Char)
  | number (begun : List Char)
  | quote (q : Quote)
  | escape (q : Quote)
  /-- The number of an escape, with the digits still due. -/
  | unit (q : Quote) (n due : Nat)

def isBlank (c : Char) : Bool := c = ' ' || c = '\t' || c = '\n' || c = '\r'

def isNumberChar (c : Char) : Bool :=
  c.isDigit || c = '-' || c = '+' || c = '.' || c = 'e' || c = 'E'

def hexDigit? (c : Char) : Option Nat :=
  if c.isDigit then some (c.toNat - '0'.toNat)
  else if 'a' ≤ c && c ≤ 'f' then some (c.toNat - 'a'.toNat + 10)
  else if 'A' ≤ c && c ≤ 'F' then some (c.toNat - 'A'.toNat + 10)
  else none

def mark? : Char → Option Token
  | '\x7b' => some .openObject
  | '\x7d' => some .closeObject
  | '[' => some .openArray
  | ']' => some .closeArray
  | ':' => some .colon
  | ',' => some .comma
  | _ => none

/-- The value that a word stands for. -/
def ofWord? (s : List Char) : Option Json :=
  if s = "null".toList then some null
  else if s = "true".toList then some (bool true)
  else if s = "false".toList then some (bool false)
  else none

/-- The character that an escape of one letter stands for. -/
def escaped? : Char → Option Char
  | '"' => some '"'
  | '\\' => some '\\'
  | '/' => some '/'
  | 'b' => some '\x08'
  | 'f' => some '\x0c'
  | 'n' => some '\n'
  | 'r' => some '\r'
  | 't' => some '\t'
  | _ => none

/-- Starts on a character between two tokens: the token that it is, and what is being read then. -/
def begin? (c : Char) : Option (List Token × Reading) :=
  if isBlank c then some ([], .fresh)
  else if c = '"' then some ([], .quote {})
  else if c.isDigit || c = '-' then some ([], .number [c])
  else if c.isAlpha then some ([], .word [c])
  else (mark? c).map fun t => ([t], .fresh)

/-- Takes one character: the tokens that end with it, and what is being read then. -/
def take? : Reading → Char → Option (List Token × Reading)
  | .fresh, c => begin? c
  | .word begun, c =>
    if c.isAlpha then some ([], .word (c :: begun))
    else do
      let value ← ofWord? begun.reverse
      let (ts, reading) ← begin? c
      some (.plain value :: ts, reading)
  | .number begun, c =>
    if isNumberChar c then some ([], .number (c :: begun))
    else do
      let value ← ofNumber? begun.reverse
      let (ts, reading) ← begin? c
      some (.plain value :: ts, reading)
  | .quote q, c =>
    if c = '"' then some ([.quoted q.text?], .fresh)
    else if c = '\\' then some ([], .escape q)
    else if c < ' ' then none
    else some ([], .quote (q.push c))
  | .escape q, c =>
    if c = 'u' then some ([], .unit q 0 4)
    else (escaped? c).map fun e => ([], .quote (q.push e))
  | .unit q n due, c => do
    let n := 16 * n + (← hexDigit? c)
    some ([], if due ≤ 1 then .quote (q.pushUnit n) else .unit q n (due - 1))

/-- The tokens of a text of which something is being read. -/
def tokensFrom? : Reading → List Char → Option (List Token)
  | .fresh, [] => some []
  | .word begun, [] => (ofWord? begun.reverse).map fun value => [.plain value]
  | .number begun, [] => (ofNumber? begun.reverse).map fun value => [.plain value]
  | _, [] => none
  | reading, c :: s => do
    let (ts, reading) ← take? reading c
    some (ts ++ (← tokensFrom? reading s))

/-- The tokens of a text, if it falls into tokens. -/
def tokens? (s : List Char) : Option (List Token) := tokensFrom? .fresh s

example : tokens? "[1, \"a\\u00e9\"]".toList =
    some [.openArray, .plain (int 1), .comma, .quoted (some "aé"), .closeArray] := by decide
example : tokens? "\"\\ud83d\\ude00\"".toList = some [.quoted (some "😀")] := by decide
example : tokens? "\"\\ud83d!\"".toList = some [.quoted none] := by decide

end RingKeeper.Json
