import RingKeeper.Proofs.Plan
import RingKeeper.Proofs.Registry.Shelf
import RingKeeper.Rehearsal.Race

/-!
# What a call to the registry relies on

A store that hands out configmaps of some kind, and fails with faults of some kind, is all that a
call to the registry relies on. The call then asks for nothing but the registry's own configmap,
replaces it by one of that kind, and fails with no other faults (`Contract.ensures_procedure`).
-/

namespace RingKeeper

open Registry
open Rehearsal (Call Outcome)

/-- The attempt succeeds with such a value or fails with such a fault. -/
def Attempt.Meets {α : Type} (good : α → Prop) (bad : Fault → Prop) : Attempt α → Prop
  | .ok a => good a
  | .error f => bad f

def Attempt.fault? {α : Type} : Attempt α → Option Fault
  | .ok _ => none
  | .error f => some f

theorem Attempt.Meets.fault {α : Type} {good : α → Prop} {bad : Fault → Prop} {x : Attempt α}
    {f : Fault} (hx : x.Meets good bad) (h : x.fault? = some f) : bad f := by
  cases x with
  | ok a => cases h
  | error g =>
    cases h
    exact hx

/-- The fault that a call comes back with. -/
def Rehearsal.Outcome.fault? : Outcome → Option Fault
  | .name _ => none
  | .configMap r => r.fault?
  | .address r => r.fault?
  | .acquired r => r.fault?
  | .released _ => none
  | .updated r => r.fault?

namespace Registry

/-- A program that calls a registry, and may go by what its calls come back with. -/
abbrev Client (α : Type) : Type := Plan Call (fun _ => Outcome) α

/-- What the client asks of the store that keeps the registry. -/
def Client.over {α : Type} (r : Registry) (p : Client α) : Procedure α :=
  p.perform fun call => call.procedure r

/-- Configmaps that stay of their kind through the changes that the registry makes, and faults that
have the faults of the registry among them. -/
structure Contract (r : Registry) where
  entry : ConfigMap → Prop
  fault : Fault → Prop
  lockFor : ∀ c holder, entry c → entry (c.lockFor holder)
  recordAddress : ∀ c pod address, entry c → entry (c.recordAddress pod address)
  lockHeld : ∀ holder, fault (.ofKind (.lockHeld r.name holder))
  /-- A conflict is told of again under the name of the registry. -/
  conflict : ∀ f name, fault f → f.kind = .conflict name → fault (.ofKind (.conflict r.name))

namespace Contract

variable {r : Registry} (k : Contract r) {α β : Type}

/-- While the store keeps to the contract, so does the procedure, and it ends in this way. -/
def Ensures (ends : α → Prop) (p : Procedure α) : Prop :=
  Plan.Ensures (Question.IsFor r.name k.entry) (fun _ x => Attempt.Meets k.entry k.fault x) ends p

variable {k} in
theorem Ensures.bind {p : Procedure α} {next : α → Procedure β} {ends : α → Prop}
    {ends' : β → Prop} (hp : k.Ensures ends p) (hnext : ∀ a, ends a → k.Ensures ends' (next a)) :
    k.Ensures ends' (p >>= next) :=
  Plan.Ensures.bind hp hnext

theorem ensures_get : k.Ensures (Attempt.Meets k.entry k.fault) r.get :=
  ⟨rfl, fun _ hx => hx⟩

theorem ensures_replace {c : ConfigMap} (hc : k.entry c) :
    k.Ensures (Attempt.Meets k.entry k.fault) (Plan.request (.replace c)) :=
  ⟨hc, fun _ hx => hx⟩

theorem ensures_addressOf (pod : String) :
    k.Ensures (Attempt.Meets (fun _ => True) k.fault) (r.addressOf pod) := by
  refine k.ensures_get.bind fun x hx => ?_
  cases x with
  | error f => exact hx
  | ok c => trivial

/-- The second reading after a conflict, to name the pod that has the lock now. -/
theorem ensures_afterConflict {f : Fault} {name : String} (hf : k.fault f)
    (hkind : f.kind = .conflict name) (holder : String) :
    k.Ensures (Attempt.Meets (· = ⟨r, holder⟩) k.fault) (do
      match ← r.get with
      | .error f => return .error f
      | .ok c =>
        if c.isLockedAgainst holder then
          return .error (.ofKind (.lockHeld r.name c.lockedBy))
        else return .error (.ofKind (.conflict r.name)) : Procedure (Attempt Guard)) := by
  refine k.ensures_get.bind fun x hx => ?_
  cases x with
  | error g => exact hx
  | ok c =>
    dsimp only
    split
    · exact k.lockHeld _
    · exact k.conflict f name hf hkind

theorem ensures_acquire (holder : String) :
    k.Ensures (Attempt.Meets (· = ⟨r, holder⟩) k.fault) (r.acquire holder) := by
  refine k.ensures_get.bind fun x hx => ?_
  cases x with
  | error f => exact hx
  | ok c =>
    dsimp only
    split
    · exact k.lockHeld _
    · refine (k.ensures_replace (k.lockFor c holder hx)).bind fun y hy => ?_
      cases y with
      | ok d => rfl
      | error f =>
        dsimp only
        split
        · rename_i name hkind
          exact k.ensures_afterConflict hy hkind holder
        · exact hy

theorem ensures_release (holder : String) : k.Ensures (fun _ => True) (r.release holder) := by
  refine k.ensures_get.bind fun x hx => ?_
  cases x with
  | error f =>
    dsimp only
    split <;> trivial
  | ok c =>
    dsimp only
    split
    · refine (k.ensures_replace (k.lockFor c "" hx)).bind fun y _ => ?_
      cases y <;> trivial
    · trivial

theorem ensures_putAddress (pod address : String) :
    k.Ensures (Attempt.Meets (fun _ => True) k.fault) (r.putAddress pod address) := by
  refine k.ensures_get.bind fun x hx => ?_
  cases x with
  | error f => exact hx
  | ok c =>
    refine (k.ensures_replace (k.recordAddress c pod address hx)).bind fun y hy => ?_
    cases y with
    | error f => exact hy
    | ok d => trivial

theorem ensures_commit (pod address : String) :
    k.Ensures (Attempt.Meets (fun _ => True) k.fault) (r.commit pod address) := by
  refine (k.ensures_acquire pod).bind fun x hx => ?_
  cases x with
  | error f => exact hx
  | ok guard =>
    obtain rfl : guard = ⟨r, pod⟩ := hx
    refine (k.ensures_putAddress pod address).bind fun written hwritten => ?_
    exact (k.ensures_release pod).bind fun _ _ => hwritten

theorem ensures_procedure (call : Call) :
    k.Ensures (fun o => ∀ f, o.fault? = some f → k.fault f) (call.procedure r) := by
  cases call with
  | name => exact fun f h => nomatch h
  | get => exact k.ensures_get.bind fun _ hx _ h => hx.fault h
  | addressOf pod => exact (k.ensures_addressOf pod).bind fun _ hx _ h => hx.fault h
  | acquire holder => exact (k.ensures_acquire holder).bind fun _ hx _ h => hx.fault h
  | release holder => exact (k.ensures_release holder).bind fun _ _ _ h => nomatch h
  | commit pod address => exact (k.ensures_commit pod address).bind fun _ hx _ h => hx.fault h

/-- A client makes any calls, and keeps to the contract as they do. -/
theorem ensures_over (p : Client α) : k.Ensures (fun _ => True) (p.over r) :=
  (Plan.ensures_true p).perform fun call _ => k.ensures_procedure call

end Contract

end Registry

end RingKeeper
