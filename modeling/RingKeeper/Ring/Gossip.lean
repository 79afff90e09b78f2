import RingKeeper.Text.Blank
import RingKeeper.Text.Lines

/-!
# The gossip flag

A node's information report has one line that says whether gossip is active. The first line of
that form counts.
-/

namespace RingKeeper.Ring

open Text

/-- The flag of a line: the label, blanks, a colon, blanks, and a truth value at the end. -/
def gossipLine? (line : List Char) : Option Bool := do
  let s ← "Gossip active".toList.isPrefixOf? (skipBlanks line)
  match s with
  | c :: s =>
    if !isBlank c then none
    else match skipBlanks s with
      | ':' :: d :: s =>
        if !isBlank d then none
        else
          let value := trim s
          if value = "true".toList then some true
          else if value = "false".toList then some false
          else none
      | _ => none
  | [] => none

/-- Whether gossip is active by this report; nothing if no line says so. -/
def gossip? (report : String) : Option Bool :=
  (lines report.toList).findSome? gossipLine?

end RingKeeper.Ring
