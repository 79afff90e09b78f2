/-!
# Lines of a text

A line ends at a line feed, and a carriage return right before that line feed belongs to the line
end. A text that ends in a line feed has no empty last line; a carriage return elsewhere stays.
-/

namespace RingKeeper.Text

/-- A finished line, given with its characters reversed: one carriage return at its end goes. -/
def closeLine : List Char → List Char
  | '\r' :: s => s.reverse
  | s => s.reverse

/-- The lines of a text whose current line has begun with the characters `begun`, reversed. -/
def linesFrom (begun : List Char) : List Char → List (List Char)
  | [] => if begun.isEmpty then [] else [begun.reverse]
  | c :: s => if c = '\n' then closeLine begun :: linesFrom [] s else linesFrom (c :: begun) s

def lines (s : List Char) : List (List Char) := linesFrom [] s

@[simp] theorem lines_nil : lines [] = [] := rfl

example : lines "a\r\nb\rc\n\nd\r".toList =
    ["a".toList, "b\rc".toList, [], "d\r".toList] := by decide

end RingKeeper.Text
