import RingKeeper.Json.Token

/-!
# Reading JSON texts

The tokens of a text are put together to a document from the left: whatever has been opened and not
yet closed waits on a stack. An object with a key that stands for no text is illegible as a whole.
-/

namespace RingKeeper.Json

/-- An array or object that is open. -/
inductive Frame where
  /-- An array with the items so far, latest first. -/
  | array (items : List Json)
  /-- An object with the fields so far, latest first, and whether all its keys are texts. -/
  | object (fields : Fields) (legible : Bool)
  /-- An object in which a value belongs to the key. -/
  | field (key : String) (fields : Fields) (legible : Bool)

/-- What may follow. -/
inductive Due where
  | value
  /-- The first item, or the end of the array. -/
  | item
  /-- The first key, or the end of the object. -/
  | firstKey
  | key
  | colon
  /-- A comma or the end of what is open. -/
  | next
  /-- Nothing; the document is read. -/
  | nothing (document : Json)

structure Assembly where
  due : Due := .value
  /-- What is open, innermost first. -/
  frames : List Frame := []

namespace Assembly

/-- A value is complete. -/
def complete? (j : Json) : List Frame → Option Assembly
  | [] => some ⟨.nothing j, []⟩
  | .array items :: frames => some ⟨.next, .array (j :: items) :: frames⟩
  | .field key fields legible :: frames =>
    some ⟨.next, .object ((key, j) :: fields) legible :: frames⟩
  | .object .. :: _ => none

/-- The innermost open array or object is closed. -/
def close? (isArray : Bool) : List Frame → Option Assembly
  | .array items :: frames => if isArray then complete? (arr items.reverse) frames else none
  | .object fields legible :: frames =>
    if isArray then none
    else complete? (if legible then obj fields.reverse else .illegible) frames
  | _ => none

/-- A value begins, or is already complete. -/
def value? (frames : List Frame) : Token → Option Assembly
  | .plain j => complete? j frames
  | .quoted text => complete? (text.elim .illegible str) frames
  | .openArray => some ⟨.item, .array [] :: frames⟩
  | .openObject => some ⟨.firstKey, .object [] true :: frames⟩
  | _ => none

/-- A key of the innermost object. -/
def key? : List Frame → Token → Option Assembly
  | .object fields legible :: frames, .quoted (some key) =>
    some ⟨.colon, .field key fields legible :: frames⟩
  | .object fields _ :: frames, .quoted none => some ⟨.colon, .field "" fields false :: frames⟩
  | _, _ => none

/-- Takes the next token, if it may stand here. -/
def take? (a : Assembly) (t : Token) : Option Assembly :=
  match a.due, t with
  | .value, t => value? a.frames t
  | .item, .closeArray => close? true a.frames
  | .item, t => value? a.frames t
  | .firstKey, .closeObject => close? false a.frames
  | .firstKey, t => key? a.frames t
  | .key, t => key? a.frames t
  | .colon, .colon => some ⟨.value, a.frames⟩
  | .next, .closeArray => close? true a.frames
  | .next, .closeObject => close? false a.frames
  | .next, .comma =>
    match a.frames with
    | .array _ :: _ => some ⟨.value, a.frames⟩
    | .object .. :: _ => some ⟨.key, a.frames⟩
    | _ => none
  | _, _ => none

/-- The document, if all of it has been read. -/
def document? (a : Assembly) : Option Json :=
  match a.due with
  | .nothing j => some j
  | _ => none

end Assembly

/-- The document that the text is, if it is one. -/
def ofText? (text : String) : Option Json := do
  let assembly ← (← tokens? text.toList).foldlM Assembly.take? {}
  assembly.document?

example : ofText? " [1, \x7b\"a\": null, \"a\": true\x7d] " =
    some (arr [int 1, obj [("a", null), ("a", bool true)]]) := by decide +kernel
example : ofText? "[1,]" = none ∧ ofText? "" = none ∧ ofText? "[] []" = none := by decide

end RingKeeper.Json
