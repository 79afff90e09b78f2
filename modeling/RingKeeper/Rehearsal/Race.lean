import RingKeeper.Rehearsal.Store

/-!
# Races for the registry

Several calls run side by side. Each runs until it is about to replace the configmap, where the
others get their turn; then each makes its replacement and runs on to the next one. The turns go
around in the order in which the calls were started; among more than thirty calls, every second
round goes the other way.
-/

namespace RingKeeper.Rehearsal

open Registry

/-- One call to the registry, of those that may take part in a race. -/
inductive Call where
  | name
  | get
  | addressOf (pod : String)
  | acquire (holder : String)
  | release (holder : String)
  | commit (pod address : String)
deriving DecidableEq, Repr

/-- What a call comes back with. -/
inductive Outcome where
  | name (name : String)
  | configMap (r : Attempt ConfigMap)
  | address (r : Attempt (Option String))
  | acquired (r : Attempt Guard)
  | released (freed : Bool)
  | updated (r : Attempt Unit)

def Call.procedure (r : Registry) : Call → Procedure Outcome
  | name => return .name r.name
  | get => return .configMap (← r.get)
  | addressOf pod => return .address (← r.addressOf pod)
  | acquire holder => return .acquired (← r.acquire holder)
  | release holder => return .released (← r.release holder)
  | commit pod address => return .updated (← r.commit pod address)

/-- Runs a procedure until it is about to replace the configmap. -/
def advance {α : Type} : Procedure α → StoreRun → Procedure α × StoreRun
  | .done a, r => (.done a, r)
  | .ask (.get name) next, r =>
    let (a, r) := r.answer (.get name)
    advance (next a) r
  | .ask (.replace c) next, r => (.ask (.replace c) next, r)

/-- Makes the replacement that a procedure waits for, and runs it to the next one. -/
def takeTurn {α : Type} : Procedure α → StoreRun → Procedure α × StoreRun
  | .ask (.replace c) next, r =>
    let (a, r) := r.answer (.replace c)
    advance (next a) r
  | p, r => advance p r

/-- One turn for each procedure, in order. -/
def turns {α : Type} (turn : Procedure α → StoreRun → Procedure α × StoreRun) :
    List (Procedure α) → StoreRun → List (Procedure α) × StoreRun
  | [], r => ([], r)
  | p :: ps, r =>
    let (p, r) := turn p r
    let (ps, r) := turns turn ps r
    (p :: ps, r)

/-- One turn for each procedure, in order or, backwards, from the last to the first. -/
def takeTurns {α : Type} (backwards : Bool) (ps : List (Procedure α)) (r : StoreRun) :
    List (Procedure α) × StoreRun :=
  if backwards then
    let (ps, r) := turns takeTurn ps.reverse r
    (ps.reverse, r)
  else turns takeTurn ps r

/-- A number of rounds of turns, which may go back and forth. -/
def rounds {α : Type} (turning backwards : Bool) :
    Nat → List (Procedure α) → StoreRun → List (Procedure α) × StoreRun
  | 0, ps, r => (ps, r)
  | n + 1, ps, r =>
    let (ps, r) := takeTurns backwards ps r
    rounds turning (backwards != turning) n ps r

/-- The result of a procedure that has ended. -/
def finished? {α : Type} : Procedure α → Option α
  | .done a => some a
  | .ask .. => none

/-- No call replaces the configmap more often than this: to lock, to write and to unlock. -/
def mostReplacements : Nat := 3

/-- The most calls that keep their order in all rounds. -/
def mostInOrder : Nat := 30

/-- Runs the calls side by side to their ends. -/
def race (registry : Registry) (calls : List Call) (r : StoreRun) : List Outcome × StoreRun :=
  let turning := decide (mostInOrder < calls.length)
  let (ps, r) := turns advance (calls.map (·.procedure registry)) r
  let (ps, r) := rounds turning turning mostReplacements ps r
  (ps.filterMap finished?, r)

end RingKeeper.Rehearsal
