import RingKeeper.Double.Shortest
import RingKeeper.Json.Basic

/-!
# Writing JSON texts

A document is written without blanks. In a text the quote, the backslash and the control characters
are written as escapes, and everything else as it is.
-/

namespace RingKeeper.Json

/-- A digit of a number to base sixteen. -/
def hexDigit (n : Nat) : Char :=
  if n < 10 then Char.ofNat ('0'.toNat + n) else Char.ofNat ('a'.toNat + (n - 10))

/-- A character as it is written between quotes. -/
def charText (c : Char) : List Char :=
  match c with
  | '"' => ['\\', '"']
  | '\\' => ['\\', '\\']
  | '\n' => ['\\', 'n']
  | '\r' => ['\\', 'r']
  | '\t' => ['\\', 't']
  | c =>
    if c < ' ' then ['\\', 'u', '0', '0', hexDigit (c.toNat / 16), hexDigit (c.toNat % 16)]
    else [c]

def quoted (s : String) : String := String.ofList ('"' :: s.toList.flatMap charText ++ ['"'])

mutual

/-- The text of a document; what is illegible has none, and is left out as null. -/
def text : Json → String
  | null => "null"
  | bool b => if b then "true" else "false"
  | int n => toString n
  | real x => x.text
  | str s => quoted s
  | arr js => "[" ++ textOfItems js ++ "]"
  | obj fs => "\x7b" ++ textOfFields fs ++ "\x7d"
  | illegible => "null"

/-- The texts of documents, with commas between them. -/
def textOfItems : List Json → String
  | [] => ""
  | [j] => j.text
  | j :: js => j.text ++ "," ++ textOfItems js

/-- The texts of fields, with commas between them. -/
def textOfFields : Fields → String
  | [] => ""
  | [f] => quoted f.1 ++ ":" ++ f.2.text
  | f :: fs => quoted f.1 ++ ":" ++ f.2.text ++ "," ++ textOfFields fs

end

instance : Repr Json := ⟨fun j _ => j.text⟩

end RingKeeper.Json
