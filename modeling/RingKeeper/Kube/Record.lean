import RingKeeper.Json.Fields
import RingKeeper.Width

/-!
# Records about a call

What the API says about a call comes as a record: an object with each field at most once, or an array
of the fields in their order, of which the last ones may be missing. Null counts as a value here,
and unknown fields are passed over.
-/

namespace RingKeeper.Kube

/-- The values of a record's fields, as far as they are given. -/
structure Record where
  values : List (String × Option Json)
deriving DecidableEq

namespace Record

open Json

/-- The only value under a key, if it is there; a failure if there are more. -/
def single? (fs : Fields) (key : String) : Option (String × Option Json) :=
  match Fields.all fs key with
  | [] => some (key, none)
  | [j] => some (key, some j)
  | _ => none

/-- The record with these fields that a document gives. -/
def ofJson (keys : List String) : Json → Option Record
  | obj fs => (keys.mapM (single? fs)).map mk
  | arr items =>
    if items.length ≤ keys.length then
      some ⟨keys.zip (items.map some ++ List.replicate (keys.length - items.length) none)⟩
    else none
  | _ => none

def get? (r : Record) (key : String) : Option Json :=
  ((r.values.find? fun v => decide (v.1 = key)).map (·.2)).join

/-- A field that has a value when it is absent. -/
def getD {α : Type} (r : Record) (key : String) (read : Json → Option α) (default : α) : Option α :=
  match r.get? key with
  | none => some default
  | some j => read j

/-- A text that is empty when it is absent. -/
def text (r : Record) (key : String) : Option String := r.getD key str? ""

/-- A number of 16 bits that is zero when it is absent. -/
def code (r : Record) (key : String) : Option Nat := r.getD key (readNatBelow Width.bits16) 0

example : (ofJson ["a", "b"] (arr [str "x"])).bind (·.text "a") = some "x" := by decide
example : ofJson ["a"] (obj [("a", null), ("a", null)]) = none := by decide

end Record

open Json

/-! ### Statuses -/

/-- Whether the document is a well-formed cause in the details of a status. -/
def readCause (j : Json) : Option Unit := do
  let r ← Record.ofJson ["reason", "message", "field"] j
  let _ ← r.text "reason"
  let _ ← r.text "message"
  let _ ← r.text "field"

/-- Whether the document is well-formed details of a status. -/
def readDetails (j : Json) : Option Unit := do
  let r ← Record.ofJson ["name", "group", "kind", "uid", "causes", "retryAfterSeconds"] j
  let _ ← r.text "name"
  let _ ← r.text "group"
  let _ ← r.text "kind"
  let _ ← r.text "uid"
  let _ ← r.getD "causes" (readList readCause) []
  let _ ← r.getD "retryAfterSeconds" (readNatBelow Width.bits32) 0

/-- The outcomes of a call. -/
def outcomes : List String := ["Success", "Failure"]

/-- An outcome is given by its name, or by an object with its name as the only key. -/
def readOutcome : Json → Option String
  | str s => if s ∈ outcomes then some s else none
  | obj [(s, null)] => if s ∈ outcomes then some s else none
  | _ => none

/-- Whether the document is a well-formed status. -/
def readStatus (j : Json) : Option Unit := do
  let r ← Record.ofJson ["status", "code", "message", "reason", "details"] j
  let _ ← r.getD "status" (readOptional readOutcome) none
  let _ ← r.code "code"
  let _ ← r.text "message"
  let _ ← r.text "reason"
  let _ ← r.getD "details" (readOptional readDetails) none

end RingKeeper.Kube
