/-!
# Plans

A plan is a procedure written as a tree: it is done, or it asks its surroundings a question and
goes on with the answer. Who answers, and what happens between two questions, is left to whoever
performs the plan, so one plan runs against a live cluster, a rehearsed one, or another plan.
-/

namespace RingKeeper

/-- A finite procedure that asks questions `q : Q`, each answered in `A q`, and ends in an `α`. -/
inductive Plan (Q : Type) (A : Q → Type) (α : Type) : Type where
  | done (result : α)
  | ask (question : Q) (next : A question → Plan Q A α)

namespace Plan

variable {Q : Type} {A : Q → Type} {α β γ : Type}

/-- Runs the second plan on the result of the first. -/
def bind : Plan Q A α → (α → Plan Q A β) → Plan Q A β
  | done a, f => f a
  | ask q next, f => ask q fun a => (next a).bind f

instance : Monad (Plan Q A) where
  pure := done
  bind := bind

/-- The plan of one question. -/
def request (q : Q) : Plan Q A (A q) := ask q done

@[simp] theorem done_bind (a : α) (f : α → Plan Q A β) : (done a >>= f) = f a := rfl

@[simp] theorem ask_bind (q : Q) (next : A q → Plan Q A α) (f : α → Plan Q A β) :
    (ask q next >>= f) = ask q fun a => next a >>= f := rfl

@[simp] theorem request_bind (q : Q) (f : A q → Plan Q A β) : (request q >>= f) = ask q f := rfl

theorem bind_done (p : Plan Q A α) : (p >>= done) = p := by
  induction p with
  | done a => rfl
  | ask q next ih => exact congrArg (ask q) (funext ih)

theorem bind_assoc (p : Plan Q A α) (f : α → Plan Q A β) (g : β → Plan Q A γ) :
    (p >>= f >>= g) = p >>= fun a => f a >>= g := by
  induction p with
  | done a => rfl
  | ask q next ih => exact congrArg (ask q) (funext ih)

instance : LawfulMonad (Plan Q A) :=
  LawfulMonad.mk' (Plan Q A) bind_done (fun _ _ => rfl) bind_assoc

/-- Carries a plan out in a monad that knows how to answer its questions. -/
def perform {m : Type → Type} [Monad m] (answer : (q : Q) → m (A q)) : Plan Q A α → m α
  | done a => pure a
  | ask q next => do (next (← answer q)).perform answer

section
variable {m : Type → Type} [Monad m] (answer : (q : Q) → m (A q))

@[simp] theorem perform_done (a : α) : (done a : Plan Q A α).perform answer = pure a := rfl

@[simp] theorem perform_ask (q : Q) (next : A q → Plan Q A α) :
    (ask q next).perform answer = answer q >>= fun a => (next a).perform answer := rfl

theorem perform_bind [LawfulMonad m] (p : Plan Q A α) (f : α → Plan Q A β) :
    (p >>= f).perform answer = p.perform answer >>= fun a => (f a).perform answer := by
  induction p with
  | done a => simp
  | ask q next ih => simp [ih]

end

end Plan

end RingKeeper
