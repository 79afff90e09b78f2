import RingKeeper.Registry.Store

/-!
# A disturbed store

A rehearsal counts the calls to a store and disturbs the ones that were picked in advance: a call
fails without effect, or someone else writes right before a replacement. Each disturbance happens
once.
-/

namespace RingKeeper.Rehearsal

open Registry

/-- Disturbances by the number of the call that they belong to. -/
abbrev Disturbances (α : Type) : Type := Table Nat α

/-- Plans disturbances whose calls are counted from the one after `made` calls. -/
def Disturbances.plan {α : Type} (ds : Disturbances α) (made : Nat) (more : List (Nat × α)) :
    Disturbances α :=
  more.foldl (fun ds d => ds.insert (made + d.1) d.2) ds

structure StoreRun where
  store : Store
  gets : Nat := 0
  replaces : Nat := 0
  failedGets : Disturbances Fault := ∅
  failedReplaces : Disturbances Fault := ∅
  editsBeforeReplace : Disturbances Edit := ∅

namespace StoreRun

def ofStore (s : Store) : StoreRun := { store := s }

/-- Plans disturbances, counted from the next call on. -/
def disturb (r : StoreRun) (gets replaces : List (Nat × Fault)) (edits : List (Nat × Edit)) :
    StoreRun :=
  { r with
    failedGets := r.failedGets.plan r.gets gets
    failedReplaces := r.failedReplaces.plan r.replaces replaces
    editsBeforeReplace := r.editsBeforeReplace.plan r.replaces edits }

def edit (r : StoreRun) (e : Edit) : StoreRun := { r with store := r.store.edit e }

/-- Answers a call, with the disturbances planned for it. -/
def answer (r : StoreRun) : (q : Question) → Answer q × StoreRun
  | .get name =>
    let r := { r with gets := r.gets + 1 }
    match r.failedGets.get? r.gets with
    | some f => (.error f, r)
    | none => (r.store.get name, r)
  | .replace c =>
    let r := { r with replaces := r.replaces + 1 }
    let r :=
      match r.editsBeforeReplace.get? r.replaces with
      | some e => r.edit e
      | none => r
    match r.failedReplaces.get? r.replaces with
    | some f => (.error f, r)
    | none =>
      let (a, s) := r.store.replace c
      (a, { r with store := s })

/-- Runs a procedure of the registry to its end. -/
def run {α : Type} (r : StoreRun) (p : Procedure α) : α × StoreRun :=
  (show StateM StoreRun α from p.perform fun q r => r.answer q).run r

end StoreRun

end RingKeeper.Rehearsal
