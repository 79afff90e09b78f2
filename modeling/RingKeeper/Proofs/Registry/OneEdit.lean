import RingKeeper.Rehearsal.Race

/-!
# One edit per procedure

Taking the lock, recording an address and freeing the lock are one procedure each. Such a procedure
reads the registry, makes at most one replacement, which is an edit of what it read last, and ends
with it. `OneEdit` says this of a procedure, for whatever answers it gets; `oneEdit_acquire`,
`oneEdit_putAddress` and `oneEdit_release` prove it of the three. `OneEdit.heard` is the step that
all interleavings are made of: one answer either leads on or ends the procedure.
-/

namespace RingKeeper.Registry

open Rehearsal (Call Outcome)

/-! ## Questions and answers -/

/-- The call to the store that a procedure waits for. -/
def asked? {α : Type} : Procedure α → Option Question
  | .done _ => none
  | .ask q _ => some q

/-- What is left of a procedure after the answer to the call that it waits for. -/
def resume {α : Type} (x : Attempt ConfigMap) : Procedure α → Procedure α
  | .done a => .done a
  | .ask _ next => next x

/-- What a procedure read last, after one more answer. -/
def readAfter (seen : Option ConfigMap) : Question → Attempt ConfigMap → Option ConfigMap
  | .get _, .ok c => some c
  | _, _ => seen

/-- Whether the answer says that an edit was made. -/
def editMade : Question → Attempt ConfigMap → Bool
  | .replace _, .ok _ => true
  | _, _ => false

@[simp] theorem readAfter_error (seen : Option ConfigMap) (q : Question) (f : Fault) :
    readAfter seen q (.error f) = seen := by
  cases q <;> rfl

@[simp] theorem readAfter_replace (seen : Option ConfigMap) (c : ConfigMap)
    (x : Attempt ConfigMap) : readAfter seen (.replace c) x = seen := by
  cases x <;> rfl

@[simp] theorem editMade_error (q : Question) (f : Fault) : editMade q (.error f) = false := by
  cases q <;> rfl

@[simp] theorem editMade_get (name : String) (x : Attempt ConfigMap) :
    editMade (.get name) x = false := by
  cases x <;> rfl

/-! ## The discipline -/

/--
From what was read last, the procedure replaces it at most once, by an edit that `may` allows, and
is over with that. `tells` relates the result to whether the edit was made.
-/
def OneEdit {α : Type} (may : ConfigMap → ConfigMap → Prop) (tells : Bool → α → Prop) :
    Option ConfigMap → Procedure α → Prop
  | _, .done a => tells false a
  | seen, .ask (.get name) next =>
    ∀ x, OneEdit may tells (readAfter seen (.get name) x) (next x)
  | seen, .ask (.replace c) next =>
    (∃ read, seen = some read ∧ may read c) ∧
      (∀ stored, ∃ a, next (.ok stored) = .done a ∧ tells true a) ∧
      ∀ f, OneEdit may tells seen (next (.error f))

variable {α : Type} {may : ConfigMap → ConfigMap → Prop} {tells : Bool → α → Prop}
  {seen : Option ConfigMap} {p : Procedure α}

/-- A replacement that the procedure waits for is an edit of what it read last. -/
theorem OneEdit.allowed (h : OneEdit may tells seen p) {c : ConfigMap}
    (hq : asked? p = some (.replace c)) : ∃ read, seen = some read ∧ may read c := by
  cases p with
  | done a => cases hq
  | ask q next =>
    cases q with
    | get name => cases hq
    | replace c' =>
      cases hq
      exact h.1

/-- What an answer makes of a procedure: it goes on, or it is over and tells what happened. -/
inductive Heard (may : ConfigMap → ConfigMap → Prop) (tells : Bool → α → Prop)
    (seen : Option ConfigMap) (made : Bool) : Procedure α → Prop where
  | goesOn {q : Question} {next : Attempt ConfigMap → Procedure α} (hmade : made = false)
      (h : OneEdit may tells seen (.ask q next)) : Heard may tells seen made (.ask q next)
  | isOver {a : α} (h : tells made a) : Heard may tells seen made (.done a)

theorem OneEdit.heard_of_notMade (h : OneEdit may tells seen p) : Heard may tells seen false p := by
  cases p with
  | done a => exact .isOver h
  | ask q next => exact .goesOn rfl h

theorem OneEdit.heard (h : OneEdit may tells seen p) {q : Question} (hq : asked? p = some q)
    (x : Attempt ConfigMap) :
    Heard may tells (readAfter seen q x) (editMade q x) (resume x p) := by
  cases p with
  | done a => cases hq
  | ask q' next =>
    cases hq
    cases q with
    | get name =>
      rw [editMade_get]
      exact (h x).heard_of_notMade
    | replace c =>
      rw [readAfter_replace]
      cases x with
      | error f =>
        rw [editMade_error]
        exact (h.2.2 f).heard_of_notMade
      | ok stored =>
        obtain ⟨a, ha, htells⟩ := h.2.1 stored
        show Heard may tells seen true (next (.ok stored))
        rw [ha]
        exact .isOver htells

/-! ## The three procedures -/

/-- The edit that takes the lock: of a configmap in which it is free or the holder's already. -/
def Takes (holder : String) (read edited : ConfigMap) : Prop :=
  (read.lockedBy = "" ∨ read.lockedBy = holder) ∧ edited = read.lockFor holder

/-- The edit that frees the lock: of a configmap in which it is the holder's. -/
def Frees (holder : String) (read edited : ConfigMap) : Prop :=
  read.lockedBy = holder ∧ edited = read.lockFor ""

/-- The edit that records an address. -/
def Records (pod address : String) (read edited : ConfigMap) : Prop :=
  edited = read.recordAddress pod address

/-- An attempt succeeds with this result exactly if the edit was made. -/
def Succeeds {β : Type} (result : β) (made : Bool) (a : Attempt β) : Prop :=
  if made then a = .ok result else ∃ f, a = .error f

theorem lockedBy_of_not_isLockedAgainst {c : ConfigMap} {holder : String}
    (h : c.isLockedAgainst holder ≠ true) : c.lockedBy = "" ∨ c.lockedBy = holder := by
  unfold ConfigMap.isLockedAgainst at h
  by_cases hfree : c.lockedBy = ""
  · exact Or.inl hfree
  · by_cases hown : c.lockedBy = holder
    · exact Or.inr hown
    · exact absurd (by simp [hfree, hown]) h

theorem oneEdit_acquire (r : Registry) (holder : String) (seen : Option ConfigMap) :
    OneEdit (Takes holder) (Succeeds (⟨r, holder⟩ : Guard)) seen (r.acquire holder) := by
  show ∀ x, OneEdit _ _ _ _
  intro x
  cases x with
  | error f => exact ⟨f, rfl⟩
  | ok c =>
    show OneEdit _ _ (some c) (if c.isLockedAgainst holder then _ else _)
    split
    · exact ⟨_, rfl⟩
    · rename_i hfree
      refine ⟨⟨c, rfl, lockedBy_of_not_isLockedAgainst hfree, rfl⟩, fun _ => ⟨_, rfl, rfl⟩, ?_⟩
      intro f
      obtain ⟨kind, below, root⟩ := f
      cases kind with
      | conflict name =>
        show ∀ x, OneEdit _ _ _ _
        intro x
        cases x with
        | error f => exact ⟨f, rfl⟩
        | ok c =>
          show OneEdit _ _ (some c) (if c.isLockedAgainst holder then _ else _)
          split
          · exact ⟨_, rfl⟩
          · exact ⟨_, rfl⟩
      | _ => exact ⟨_, rfl⟩

theorem oneEdit_putAddress (r : Registry) (pod address : String) (seen : Option ConfigMap) :
    OneEdit (Records pod address) (Succeeds ()) seen (r.putAddress pod address) := by
  show ∀ x, OneEdit _ _ _ _
  intro x
  cases x with
  | error f => exact ⟨f, rfl⟩
  | ok c => exact ⟨⟨c, rfl, rfl⟩, fun _ => ⟨_, rfl, rfl⟩, fun f => ⟨f, rfl⟩⟩

theorem oneEdit_release (r : Registry) (holder : String) (seen : Option ConfigMap) :
    OneEdit (Frees holder) (fun made freed => made = true → freed = true) seen
      (r.release holder) := by
  show ∀ x, OneEdit _ _ _ _
  intro x
  cases x with
  | error f =>
    obtain ⟨kind, below, root⟩ := f
    cases kind <;> exact fun h => nomatch h
  | ok c =>
    show OneEdit _ _ (some c) (if c.lockedBy = holder then _ else _)
    split
    · rename_i hown
      exact ⟨⟨c, rfl, hown, rfl⟩, fun _ => ⟨_, rfl, fun _ => rfl⟩, fun _ h => nomatch h⟩
    · exact fun h => nomatch h

end RingKeeper.Registry
