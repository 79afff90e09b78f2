import Mathlib.Data.List.Forall2
import Mathlib.Logic.Function.Basic
import RingKeeper.Proofs.Plan

/-!
# Plans side by side

Any number of plans run in one state, one question at a time. `Plan.World.IsRun` are the ways in
which that may go, and `World.exists_run_of_simulates` carries a simulation of single steps over to
them.
-/

namespace RingKeeper.Plan

/-- What is left of plans that run side by side in one state. -/
structure World (S : Type) {Q : Type} (A : Q → Type) (α ι : Type) where
  state : S
  left : ι → Plan Q A α

namespace World

variable {S Q α ι : Type} {A : Q → Type} [DecidableEq ι]

/-- One of the plans asks its next question, and goes on with the answer. -/
def Step (react : (q : Q) → S → A q → S → Prop) (w w' : World S A α ι) : Prop :=
  ∃ i q next x s', w.left i = .ask q next ∧ react q w.state x s' ∧
    w' = ⟨s', Function.update w.left i (next x)⟩

/-- Worlds that may follow each other after the first one. -/
def IsRun (react : (q : Q) → S → A q → S → Prop) (w : World S A α ι)
    (ws : List (World S A α ι)) : Prop :=
  List.IsChain (Step react) (w :: ws)

variable {T : Type} {react : (q : Q) → S → A q → S → Prop} {react' : (q : Q) → T → A q → T → Prop}

/-- What is simulated step by step is simulated along whole runs. -/
theorem exists_run_of_simulates {R : World S A α ι → World T A α ι → Prop}
    (hstep : ∀ {w v w'}, R w v → Step react w w' → ∃ v', Step react' v v' ∧ R w' v')
    {w : World S A α ι} {v : World T A α ι} (hR : R w v) {ws : List (World S A α ι)}
    (hws : IsRun react w ws) : ∃ vs, IsRun react' v vs ∧ List.Forall₂ R ws vs := by
  induction ws generalizing w v with
  | nil => exact ⟨[], .singleton v, .nil⟩
  | cons w' ws ih =>
    obtain ⟨hfirst, hrest⟩ := List.isChain_cons_cons.mp hws
    obtain ⟨v', hv, hR'⟩ := hstep hR hfirst
    obtain ⟨vs, hvs, hall⟩ := ih hR' hrest
    exact ⟨v' :: vs, List.isChain_cons_cons.mpr ⟨hv, hvs⟩, .cons hR' hall⟩

end World

end RingKeeper.Plan
