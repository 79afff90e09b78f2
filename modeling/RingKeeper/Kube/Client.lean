import RingKeeper.Kube.Exchange
import RingKeeper.Kube.Record

/-!
# Calls to the cluster's API

A call ends in an object or in a refusal. A status from 400 to 599 refuses; what it says about the
reason counts if it is given in the form of a failure, and otherwise the bare status does. Any other
answer has to hold the object that was asked for.
-/

namespace RingKeeper.Kube

/-- Why a call did not succeed. -/
inductive Refusal where
  /-- The path cannot be sent. -/
  | unsendable
  | broken (text : String)
  /-- The API refused. -/
  | refused (code : Nat) (reason message : String)
  /-- The answer does not hold what was asked for. -/
  | unreadable
deriving DecidableEq, Repr

def Refusal.text : Refusal → String
  | unsendable => "Failed to build request: failed to build request: invalid uri character"
  | broken text => text
  | refused _ reason message => s!"ApiError: {message}: {reason}"
  | unreadable => "Error deserializing response"

/-- The refusal that a document describes: it has a status text and a code. -/
def refusalOf? (j : Json) : Option Refusal := do
  let r ← Record.ofJson ["status", "message", "reason", "code"] j
  let _ ← Json.str? (← r.get? "status")
  let code ← Json.readNatBelow Width.bits16 (← r.get? "code")
  some (.refused code (← r.text "reason") (← r.text "message"))

/-- The reason given for a refusal that says nothing more than its status. -/
def unexplained : String := "Failed to parse error data"

/-- Whether the status refuses the request. -/
def refuses (status : Nat) : Bool := decide (400 ≤ status) && decide (status < 600)

/-- The body of an answer that does not refuse. -/
def judge : Reply → Except Refusal (Option Json)
  | .broken text => .error (.broken text)
  | .answer status body =>
    if refuses status then .error ((body.bind refusalOf?).getD (.refused status unexplained ""))
    else .ok body

/-- Sends a request, if its path can be sent. -/
def send (method : Method) (path : String) (body : Option Json := none) :
    Procedure (Except Refusal (Option Json)) :=
  match sentPath? path with
  | none => return .error .unsendable
  | some path => do return judge (← Plan.request { method, path, body })

/-- Reads what a body has to hold. -/
def readBody {α : Type} (read : Json → Option α) : Except Refusal (Option Json) → Except Refusal α
  | .error r => .error r
  | .ok body =>
    match body.bind read with
    | some a => .ok a
    | none => .error .unreadable

/-- Fetches an object. -/
def get {α : Type} (read : Json → Option α) (path : String) : Procedure (Except Refusal α) := do
  return readBody read (← send .get path)

/-- The reason of a refusal that there is no such object. -/
def notFound : String := "NotFound"

/-- An object that may be absent, by the outcome of fetching it. -/
def absentIfNotFound {α : Type} : Except Refusal α → Except Refusal (Option α)
  | .ok a => .ok (some a)
  | .error (.refused code reason message) =>
    if reason = notFound then .ok none else .error (.refused code reason message)
  | .error r => .error r

/-- Fetches an object that may be absent. -/
def get? {α : Type} (read : Json → Option α) (path : String) :
    Procedure (Except Refusal (Option α)) := do
  return absentIfNotFound (← get read path)

/-- Replaces an object, and answers with the object as it is stored then. -/
def put {α : Type} (read : Json → Option α) (path : String) (body : Json) :
    Procedure (Except Refusal α) := do
  return readBody read (← send .put path (some body))

/-- Whether the document says that it is a status. -/
def isStatus (j : Json) : Bool := decide (j.get? "kind" = some (.str "Status"))

/-- A deletion answers with a status or with the object, no part of which may be illegible. -/
def readDeleted {α : Type} (read : Json → Option α) (j : Json) : Option Unit :=
  if !j.isValueAt 0 then none
  else if isStatus j then readStatus j
  else (read j).map fun _ => ()

/-- Deletes an object. -/
def delete {α : Type} (read : Json → Option α) (path : String) :
    Procedure (Except Refusal Unit) := do
  return readBody (readDeleted read) (← send .delete path)

end RingKeeper.Kube
