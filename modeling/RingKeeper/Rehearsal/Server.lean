import RingKeeper.Json.Writer
import RingKeeper.Kube.Client
import RingKeeper.Rehearsal.Retry
import RingKeeper.Table

/-!
# Rehearsing the cluster's API

A server that answers each request from a list of replies, in order; the last one stays. It knows of
nothing else, and keeps a record of the requests.
-/

namespace RingKeeper.Rehearsal

open Kube (Request Reply Procedure)

/-- The reply to a request for something unknown. -/
def unknownReply : Reply :=
  .answer 404 (some (.obj
    [("apiVersion", .str "v1"), ("kind", .str "Status"), ("status", .str "Failure"),
      ("message", .str "not found"), ("reason", .str Kube.notFound), ("code", .int 404)]))

structure Server where
  /-- The replies by the text of the request. -/
  replies : Table String (List Reply) := ∅
  /-- The requests received, latest first. -/
  requests : List Request := []

/-- The method and the path of a request. -/
def requestText (r : Request) : String := s!"{r.method.text} {r.path}"

/-- The request as it is received: its document travels as a text. -/
def received (r : Request) : Request :=
  { r with body := r.body.map fun j => (Json.ofText? j.text).getD j }

namespace Server

def answer (s : Server) (r : Request) : Reply × Server :=
  let s := { s with requests := received r :: s.requests }
  match (s.replies.get? (requestText r)).bind playNext with
  | none => (unknownReply, s)
  | some (reply, left) => (reply, { s with replies := s.replies.insert (requestText r) left })

def run {α : Type} (s : Server) (p : Procedure α) : α × Server :=
  (show StateM Server α from p.perform fun r s => s.answer r).run s

end Server

end RingKeeper.Rehearsal
