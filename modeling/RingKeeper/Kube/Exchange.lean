import RingKeeper.Json.Reader
import RingKeeper.Plan

/-!
# Requests to the cluster's API

A request has a method, a path, and a document when something is written. The path has to consist of
characters that may be sent as they are; from a question mark on it is a query, and from a number
sign on it is not sent.
-/

namespace RingKeeper.Kube

inductive Method where
  | get
  | put
  | delete
deriving DecidableEq, Repr

def Method.text : Method → String
  | get => "GET"
  | put => "PUT"
  | delete => "DELETE"

structure Request where
  method : Method
  path : String
  body : Option Json := none
deriving DecidableEq

/-- What comes back for a request. -/
inductive Reply where
  /-- The exchange broke off. -/
  | broken (text : String)
  /-- A status, and the document of the body if the body is one. -/
  | answer (status : Nat) (body : Option Json)

/-- The answer of this status with a text as its body. -/
def Reply.ofText (status : Nat) (text : String) : Reply := .answer status (Json.ofText? text)

abbrev Procedure (α : Type) : Type := Plan Request (fun _ => Reply) α

/-- Whether the character is visible ASCII, and not one of these. -/
def isVisibleBut (excluded : String) (c : Char) : Bool :=
  '!' ≤ c && c ≤ '~' && !excluded.toList.contains c

def isPathChar (c : Char) : Bool := isVisibleBut "#<>?\x60" c

def isQueryChar (c : Char) : Bool := isVisibleBut "\"#<>" c

/-- Whether a query can be sent, up to its fragment. -/
def isQuery (s : List Char) : Bool := (s.takeWhile fun c => decide (c ≠ '#')).all isQueryChar

/-- The path that a request for this text goes to, if it can be sent. -/
def sentPath? (text : String) : Option String :=
  let cs := text.toList
  let path := cs.takeWhile isPathChar
  match cs.dropWhile isPathChar with
  | [] => some (String.ofList path)
  | '#' :: _ => some (String.ofList path)
  | '?' :: query => if isQuery query then some (String.ofList path) else none
  | _ => none

example : sentPath? "/api/v1/nodes/a" = some "/api/v1/nodes/a" := by decide
example : sentPath? "/api/v1/nodes/a b" = none := by decide

/-- The path of an object that belongs to no namespace. -/
def clusterPath (collection name : String) : String := s!"/api/v1/{collection}/{name}"

/-- The path of an object in a namespace. -/
def namespacedPath (inNamespace collection name : String) : String :=
  s!"/api/v1/namespaces/{inNamespace}/{collection}/{name}"

end RingKeeper.Kube
