import RingKeeper.Proofs.Registry.Contention
import RingKeeper.Proofs.Registry.Store

/-!
# What one event can do

1. `Moves` lists the ways in which a call goes on, and `Follows` is what is known of a call between
   two of its calls to the store. `Follows.hear` derives both from one answer.
2. `Snapshot` is what is known of a configmap that was read at some time: while its version is the
   stored one, it is what is stored. So a replacement is only ever applied to what was read
   (`Snapshot.replace_ok`).
3. `Sound` puts the two together for a world. `next_becomes` says all that an event can do to a
   sound world, and `sound_of_reaches` that all worlds are sound, so that `Reaches.invariant` can
   carry a property of worlds along all that can happen.
-/

namespace RingKeeper

open Registry
open Rehearsal (Call Outcome)

/-! ## The edits of a call -/

namespace Rehearsal.Call

open Contention (Leg)

/-- The pod that the call takes or frees the lock for. -/
def holder? : Call → Option String
  | acquire holder => some holder
  | release holder => some holder
  | commit pod _ => some pod
  | _ => none

/-- The call's own edit in one of its parts. -/
def edit : Call → Leg → ConfigMap → ConfigMap
  | acquire holder, .taking, c => c.lockFor holder
  | commit pod _, .taking, c => c.lockFor pod
  | commit pod address, .writing, c => c.recordAddress pod address
  | _, .freeing, c => c.lockFor ""
  | _, _, c => c

/-- The calls that begin by taking the lock, and for whom. -/
def TakesFor (call : Call) (holder : String) : Prop :=
  call = acquire holder ∨ ∃ address, call = commit holder address

/--
Whether the call may make its edit: it takes the lock only where that is free or its own already,
frees it only where it is its own, and writes only to record an address.
-/
def Permits (call : Call) : Leg → ConfigMap → Prop
  | .reading, _ => False
  | .taking, c => ∃ holder, call.TakesFor holder ∧ (c.lockedBy = "" ∨ c.lockedBy = holder)
  | .writing, _ => ∃ pod address, call = commit pod address
  | .freeing, c => call.holder? = some c.lockedBy

/-- A call returns with an outcome of its own kind. -/
def Reports : Call → Outcome → Prop
  | name, .name _ => True
  | get, .configMap _ => True
  | addressOf _, .address _ => True
  | acquire _, .acquired _ => True
  | release _, .released _ => True
  | commit _ _, .updated _ => True
  | _, _ => False

theorem TakesFor.holder?_eq {call : Call} {holder : String} (h : call.TakesFor holder) :
    call.holder? = some holder := by
  rcases h with rfl | ⟨address, rfl⟩ <;> rfl

theorem TakesFor.edit_eq {call : Call} {holder : String} (h : call.TakesFor holder)
    (c : ConfigMap) : call.edit .taking c = c.lockFor holder := by
  rcases h with rfl | ⟨address, rfl⟩ <;> rfl

/-- The calls that end by freeing the lock, and for whom: a commit has written, or tried to. -/
def FreesFor (call : Call) (holder : String) : Option (Attempt Unit) → Prop
  | none => call = release holder
  | some _ => ∃ address, call = commit holder address

theorem FreesFor.holder?_eq {call : Call} {holder : String} {written : Option (Attempt Unit)}
    (h : call.FreesFor holder written) : call.holder? = some holder := by
  cases written with
  | none => rw [show call = release holder from h]; rfl
  | some w => obtain ⟨address, rfl⟩ := h; rfl

theorem FreesFor.reports {call : Call} {holder : String} {written : Option (Attempt Unit)}
    (h : call.FreesFor holder written) (freed : Bool) :
    call.Reports (Contention.Activity.afterFreeing written freed) := by
  cases written with
  | none => rw [show call = release holder from h]; trivial
  | some w => obtain ⟨address, rfl⟩ := h; trivial

theorem edit_freeing (call : Call) (c : ConfigMap) : call.edit .freeing c = c.lockFor "" := by
  cases call <;> rfl

end Rehearsal.Call

namespace Contention

/-! ## One call -/

/-- The ways in which a call goes on after an answer, which may say that an edit was made. -/
inductive Moves (r : Registry) (call : Call) : Bool → Activity → Activity → Prop where
  | reads {rest rest' : Procedure Outcome} : Moves r call false (.reading rest) (.reading rest')
  | hasRead {rest : Procedure Outcome} {outcome : Outcome} (h : call.Reports outcome)
    (hcall : call.holder? = none) : Moves r call false (.reading rest) (.returned outcome)
  | takes {rest rest' : Procedure (Attempt Guard)} :
    Moves r call false (.taking rest) (.taking rest')
  | hasTaken {made : Bool} {rest : Procedure (Attempt Guard)} {holder : String}
    {a : Attempt Guard} (hcall : call.TakesFor holder) (h : Succeeds ⟨r, holder⟩ made a) :
    Moves r call made (.taking rest) (Activity.afterTaking r call a)
  | writes {guard : Guard} {rest rest' : Procedure (Attempt Unit)} :
    Moves r call false (.writing guard rest) (.writing guard rest')
  | hasWritten {made : Bool} {guard : Guard} {rest : Procedure (Attempt Unit)}
    {written : Attempt Unit} (h : Succeeds () made written) :
    Moves r call made (.writing guard rest) (.freeing (some written) guard.release)
  | frees {written : Option (Attempt Unit)} {rest rest' : Procedure Bool} :
    Moves r call false (.freeing written rest) (.freeing written rest')
  | hasFreed {made : Bool} {written : Option (Attempt Unit)} {rest : Procedure Bool} {freed : Bool}
    (h : made = true → freed = true) :
    Moves r call made (.freeing written rest)
      (.returned (Activity.afterFreeing written freed))

/-- What is known of a call between two of its calls to the store. -/
def Follows (r : Registry) (call : Call) (seen : Option ConfigMap) : Activity → Prop
  | .waiting => True
  | .reading rest =>
    call.holder? = none ∧
      OneEdit (fun _ _ => False) (fun _ outcome => call.Reports outcome) seen rest
  | .taking rest =>
    ∃ holder, call.TakesFor holder ∧
      OneEdit (Takes holder) (Succeeds ⟨r, holder⟩) seen rest
  | .writing guard rest =>
    ∃ pod address, call = .commit pod address ∧ guard = ⟨r, pod⟩ ∧
      OneEdit (Records pod address) (Succeeds ()) seen rest
  | .freeing written rest =>
    ∃ holder, call.FreesFor holder written ∧
      OneEdit (Frees holder) (fun made freed => made = true → freed = true) seen rest
  | .returned outcome => call.Reports outcome

variable {r : Registry} {call : Call} {seen : Option ConfigMap} {a : Activity}

theorem oneEdit_reading (r : Registry) {call : Call} (h : call.holder? = none)
    (seen : Option ConfigMap) :
    OneEdit (fun _ _ => False) (fun _ outcome => call.Reports outcome) seen
      (call.procedure r) := by
  cases call with
  | name => trivial
  | get => exact fun _ => trivial
  | addressOf pod => exact fun x => by cases x <;> trivial
  | acquire holder => cases h
  | release holder => cases h
  | commit pod address => cases h

theorem follows_first (r : Registry) (call : Call) (seen : Option ConfigMap) :
    Follows r call seen ((Activity.first r call).settle r call) := by
  cases call with
  | name => trivial
  | get => exact ⟨rfl, oneEdit_reading r rfl seen⟩
  | addressOf pod => exact ⟨rfl, oneEdit_reading r rfl seen⟩
  | acquire holder => exact ⟨holder, Or.inl rfl, oneEdit_acquire r holder seen⟩
  | release holder => exact ⟨holder, rfl, oneEdit_release r holder seen⟩
  | commit pod address => exact ⟨pod, Or.inr ⟨address, rfl⟩, oneEdit_acquire r pod seen⟩

theorem follows_afterTaking {holder : String} (hcall : call.TakesFor holder) {made : Bool}
    {taken : Attempt Guard} (h : Succeeds ⟨r, holder⟩ made taken) (seen : Option ConfigMap) :
    Follows r call seen (Activity.afterTaking r call taken) := by
  rcases hcall with rfl | ⟨address, rfl⟩
  · exact trivial
  · unfold Succeeds at h
    split at h
    · subst h
      exact ⟨holder, address, rfl, rfl, oneEdit_putAddress r holder address seen⟩
    · obtain ⟨f, rfl⟩ := h
      exact trivial

theorem Follows.hear (h : Follows r call seen a) {q : Question} (hq : a.asked? = some q)
    (x : Attempt ConfigMap) :
    Follows r call (readAfter seen q x) (a.hear r call x) ∧
      Moves r call (editMade q x) a (a.hear r call x) := by
  cases a with
  | waiting => cases hq
  | returned outcome => cases hq
  | reading rest =>
    obtain ⟨hcall, hone⟩ := h
    have hh := hone.heard hq x
    show Follows r call _ (Activity.settle r call (.reading (Registry.resume x rest))) ∧
      Moves r call _ _ (Activity.settle r call (.reading (Registry.resume x rest)))
    -- the discipline of reading allows no edit
    have hmade : editMade q x = false := by
      cases q with
      | get name => exact editMade_get name x
      | replace c =>
        obtain ⟨read, -, hfalse⟩ := hone.allowed hq
        exact hfalse.elim
    rw [hmade] at hh ⊢
    generalize Registry.resume x rest = p at hh ⊢
    cases hh with
    | goesOn _ h => exact ⟨⟨hcall, h⟩, .reads⟩
    | isOver h => exact ⟨h, .hasRead h hcall⟩
  | taking rest =>
    obtain ⟨holder, hcall, hone⟩ := h
    have hh := hone.heard hq x
    show Follows r call _ (Activity.settle r call (.taking (Registry.resume x rest))) ∧
      Moves r call _ _ (Activity.settle r call (.taking (Registry.resume x rest)))
    generalize Registry.resume x rest = p at hh ⊢
    cases hh with
    | goesOn hmade h =>
      rw [hmade]
      exact ⟨⟨holder, hcall, h⟩, .takes⟩
    | @isOver a h => exact ⟨follows_afterTaking hcall h _, .hasTaken hcall h⟩
  | writing guard rest =>
    obtain ⟨pod, address, rfl, rfl, hone⟩ := h
    have hh := hone.heard hq x
    show Follows r _ _ (Activity.settle r _ (.writing _ (Registry.resume x rest))) ∧
      Moves r _ _ _ (Activity.settle r _ (.writing _ (Registry.resume x rest)))
    generalize Registry.resume x rest = p at hh ⊢
    cases hh with
    | goesOn hmade h =>
      rw [hmade]
      exact ⟨⟨pod, address, rfl, rfl, h⟩, .writes⟩
    | isOver h => exact ⟨⟨pod, ⟨address, rfl⟩, oneEdit_release r pod _⟩, .hasWritten h⟩
  | freeing written rest =>
    obtain ⟨holder, hcall, hone⟩ := h
    have hh := hone.heard hq x
    show Follows r call _ (Activity.settle r call (.freeing written (Registry.resume x rest))) ∧
      Moves r call _ _ (Activity.settle r call (.freeing written (Registry.resume x rest)))
    generalize Registry.resume x rest = p at hh ⊢
    cases hh with
    | goesOn hmade h =>
      rw [hmade]
      exact ⟨⟨holder, hcall, h⟩, .frees⟩
    | isOver h => exact ⟨hcall.reports _, .hasFreed h⟩

/-- A replacement that a call waits for is its own edit of what it read last. -/
theorem Follows.allowed (h : Follows r call seen a) {c : ConfigMap}
    (hq : a.asked? = some (.replace c)) :
    ∃ read, seen = some read ∧ call.Permits a.leg read ∧ c = call.edit a.leg read := by
  cases a with
  | waiting => cases hq
  | returned outcome => cases hq
  | reading rest =>
    obtain ⟨read, -, hfalse⟩ := h.2.allowed hq
    exact hfalse.elim
  | taking rest =>
    obtain ⟨holder, hcall, hone⟩ := h
    obtain ⟨read, hread, hfree, hedit⟩ := hone.allowed hq
    exact ⟨read, hread, ⟨holder, hcall, hfree⟩, by rw [hedit]; exact (hcall.edit_eq read).symm⟩
  | writing guard rest =>
    obtain ⟨pod, address, rfl, rfl, hone⟩ := h
    obtain ⟨read, hread, hedit⟩ := hone.allowed hq
    exact ⟨read, hread, ⟨pod, address, rfl⟩, hedit⟩
  | freeing written rest =>
    obtain ⟨holder, hcall, hone⟩ := h
    obtain ⟨read, hread, hown, hedit⟩ := hone.allowed hq
    refine ⟨read, hread, ?_, by rw [hedit]; exact (call.edit_freeing read).symm⟩
    show call.holder? = some read.lockedBy
    rw [hcall.holder?_eq, hown]

/-! ## Snapshots -/

/-- An edit of a call keeps the version that was read. -/
theorem resourceVersion_edit (call : Call) (leg : Leg) (c : ConfigMap) :
    (call.edit leg c).metadata.resourceVersion = c.metadata.resourceVersion := by
  cases call <;> cases leg <;> rfl

/--
A configmap that was read at some time: its version is not beyond the stored one, and where it is
that one, it is what is stored.
-/
def Snapshot (s : Store) (c : ConfigMap) : Prop :=
  ∃ version, c.metadata.resourceVersion = some (toString version) ∧
    ∀ d n, s.stored = some (d, n) → version ≤ n ∧ (version = n → c = d.atVersion n)

theorem snapshot_of_stored {s : Store} {c : ConfigMap} {version : Nat}
    (h : s.stored = some (c, version)) : Snapshot s (c.atVersion version) := by
  refine ⟨version, rfl, fun d n hs => ?_⟩
  rw [h] at hs
  cases hs
  exact ⟨Nat.le_refl _, fun _ => rfl⟩

/-- What was read stays a snapshot when the version has moved up. -/
theorem Snapshot.write {s : Store} {c d d' : ConfigMap} {n : Nat} (h : Snapshot s c)
    (hs : s.stored = some (d, n)) : Snapshot ⟨some (d', n + 1)⟩ c := by
  obtain ⟨version, hversion, hold⟩ := h
  refine ⟨version, hversion, fun e m he => ?_⟩
  cases he
  have hle := (hold d n hs).1
  exact ⟨by omega, fun heq => by omega⟩

theorem Snapshot.delete {s : Store} {c : ConfigMap} (h : Snapshot s c) : Snapshot ⟨none⟩ c := by
  obtain ⟨version, hversion, -⟩ := h
  exact ⟨version, hversion, fun d n hs => nomatch hs⟩

/-- An edit of a snapshot is only ever applied to the snapshot. -/
theorem Snapshot.replace_ok {s s' : Store} {read edited left : ConfigMap} (h : Snapshot s read)
    (hversion : edited.metadata.resourceVersion = read.metadata.resourceVersion)
    (hreplace : s.replace edited = (.ok left, s')) :
    ∃ d n, s.stored = some (d, n) ∧ read = d.atVersion n ∧
      left = edited.atVersion (n + 1) ∧ s' = ⟨some (edited, n + 1)⟩ := by
  obtain ⟨d, n, hs, hcarried, hleft, hs'⟩ := Store.replace_ok hreplace
  obtain ⟨version, hread, hold⟩ := h
  have heq : version = n := by
    rw [hversion, hread] at hcarried
    exact toString_injective (Option.some.inj hcarried)
  exact ⟨d, n, hs, (hold d n hs).2 heq, hleft, hs'⟩

/-! ## Worlds -/

variable {ι : Type} [DecidableEq ι] {call : ι → Call} {w w' : World ι} {e : Event ι}

/-- Every call follows its procedure, and what it has read is a snapshot of the store. -/
structure Sound (r : Registry) (call : ι → Call) (w : World ι) : Prop where
  snapshots : ∀ i c, w.seen i = some c → Snapshot w.store c
  follows : ∀ i, Follows r (call i) (w.seen i) (w.activity i)

/-- All that an event can make of a sound world. -/
inductive Becomes (r : Registry) (call : ι → Call) (w : World ι) : Event ι → World ι → Prop where
  | same {e : Event ι} : Becomes r call w e w
  | started (i : ι) (hi : w.activity i = .waiting) :
    Becomes r call w (.start i)
      { w with
        activity := Function.update w.activity i ((Activity.first r (call i)).settle r (call i))
        live := guardsAtStart w.live (call i) }
  /-- A call goes on without having written. -/
  | heard {e : Event ι} (i : ι) {a : Activity} {seen : Option ConfigMap}
    (hseen : ∀ c, seen = some c → Snapshot w.store c) (hfollows : Follows r (call i) seen a)
    (hmoves : Moves r (call i) false (w.activity i) a) :
    Becomes r call w e
      { w with
        activity := Function.update w.activity i a
        seen := Function.update w.seen i seen
        live := guards w.live (w.activity i) a }
  /-- A call goes on after it replaced what it had read, which was stored still, by its own edit. -/
  | wrote (i : ι) {a : Activity} {c : ConfigMap} {version : Nat}
    (hstored : w.store.stored = some (c, version)) (hseen : w.seen i = some (c.atVersion version))
    (hpermits : (call i).Permits (w.activity i).leg (c.atVersion version))
    (hfollows : Follows r (call i) (w.seen i) a) (hmoves : Moves r (call i) true (w.activity i) a) :
    Becomes r call w (.answer i)
      { w with
        store := ⟨some ((call i).edit (w.activity i).leg (c.atVersion version), version + 1)⟩
        activity := Function.update w.activity i a
        live := guards w.live (w.activity i) a
        log := w.log ++ [.write ⟨i, (w.activity i).leg, w.seen i, w.store.configMap?,
          ((call i).edit (w.activity i).leg (c.atVersion version)).atVersion (version + 1)⟩] }
  | edited (e : ForeignEdit) {c : ConfigMap} {version : Nat}
    (hstored : w.store.stored = some (c, version)) :
    Becomes r call w (.edit e)
      { w with
        store := ⟨some (e.apply (c.atVersion version), version + 1)⟩
        log := w.log ++ [.edit e] }
  | deleted : Becomes r call w .delete { w with store := ⟨none⟩ }

/-- A call that hears of a failure goes on without having written. -/
theorem hear_becomes (h : Sound r call w) {i : ι} {q : Question}
    (hq : (w.activity i).asked? = some q) (f : Fault) :
    Becomes r call w e (w.hear r call i (.error f)) := by
  obtain ⟨hfollows, hmoves⟩ := (h.follows i).hear hq (.error f)
  rw [readAfter_error] at hfollows
  rw [editMade_error] at hmoves
  have := Becomes.heard (e := e) i (h.snapshots i) hfollows hmoves
  rwa [Function.update_eq_self] at this

theorem answer_get (i : ι) (name : String) :
    w.answer r call i (.get name) =
      { w.hear r call i (w.store.get name) with
        seen :=
          Function.update w.seen i (readAfter (w.seen i) (.get name) (w.store.get name)) } := by
  have hlog : w.log ++ w.written i (.get name) (w.store.get name) = w.log := by
    cases w.store.get name <;> exact List.append_nil _
  unfold World.answer
  rw [show w.store.answer (.get name) = (w.store.get name, w.store) from rfl]
  dsimp only
  rw [hlog]
  rfl

theorem answer_replace_error (i : ι) {c : ConfigMap} {f : Fault} {s : Store}
    (h : w.store.replace c = (.error f, s)) :
    w.answer r call i (.replace c) = w.hear r call i (.error f) := by
  obtain rfl := Store.replace_error h
  have hlog : w.log ++ w.written i (.replace c) (.error f) = w.log := List.append_nil _
  unfold World.answer
  rw [show w.store.answer (.replace c) = (.error f, w.store) from h]
  dsimp only
  rw [hlog, readAfter_replace, Function.update_eq_self]
  rfl

theorem answer_replace_ok (i : ι) {c left : ConfigMap} {s : Store}
    (h : w.store.replace c = (.ok left, s)) :
    w.answer r call i (.replace c) =
      { w.hear r call i (.ok left) with
        store := s
        log := w.log ++
          [.write ⟨i, (w.activity i).leg, w.seen i, w.store.configMap?, left⟩] } := by
  unfold World.answer
  rw [show w.store.answer (.replace c) = (.ok left, s) from h]
  dsimp only
  rw [readAfter_replace, Function.update_eq_self]
  rfl

theorem answer_becomes (h : Sound r call w) {i : ι} {q : Question}
    (hq : (w.activity i).asked? = some q) : Becomes r call w (.answer i) (w.answer r call i q) := by
  cases q with
  | get name =>
    obtain ⟨hfollows, hmoves⟩ := (h.follows i).hear hq (w.store.get name)
    rw [editMade_get] at hmoves
    have hseen : ∀ c, readAfter (w.seen i) (.get name) (w.store.get name) = some c →
        Snapshot w.store c := by
      intro c hc
      cases hx : w.store.get name with
      | error f =>
        rw [hx, readAfter_error] at hc
        exact h.snapshots i c hc
      | ok read =>
        rw [hx] at hc
        cases hc
        obtain ⟨d, version, hstored, rfl, -⟩ := Store.get_ok hx
        exact snapshot_of_stored hstored
    rw [answer_get]
    exact .heard i hseen hfollows hmoves
  | replace c =>
    cases hx : w.store.replace c with
    | mk x s =>
      cases x with
      | error f =>
        rw [answer_replace_error i hx]
        exact hear_becomes h hq f
      | ok left =>
        obtain ⟨hfollows, hmoves⟩ := (h.follows i).hear hq (.ok left)
        rw [answer_replace_ok i hx]
        obtain ⟨read, hread, hpermits, rfl⟩ := (h.follows i).allowed hq
        obtain ⟨d, version, hstored, rfl, rfl, rfl⟩ :=
          (h.snapshots i read hread).replace_ok (resourceVersion_edit _ _ _) hx
        exact .wrote i hstored hread hpermits hfollows hmoves

/-- **Nothing else can happen.** -/
theorem next_becomes (h : Sound r call w) (e : Event ι) :
    Becomes r call w e (w.next r call e) := by
  cases e with
  | start i =>
    unfold World.next
    dsimp only
    split
    · exact .started i ‹_›
    · exact .same
  | answer i =>
    unfold World.next
    dsimp only
    split
    · exact answer_becomes h ‹_›
    · exact .same
  | fail i f =>
    unfold World.next
    dsimp only
    split
    · exact hear_becomes h ‹_› f
    · exact .same
  | edit e =>
    unfold World.next
    dsimp only
    split
    · exact .edited e ‹_›
    · exact .same
  | delete => exact .deleted

theorem follows_update {seen : ι → Option ConfigMap} {activity : ι → Activity}
    (h : ∀ j, Follows r (call j) (seen j) (activity j)) {i : ι} {c : Option ConfigMap}
    {a : Activity} (hi : Follows r (call i) c a) (j : ι) :
    Follows r (call j) (Function.update seen i c j) (Function.update activity i a j) := by
  by_cases hj : j = i
  · subst hj
    rw [Function.update_self, Function.update_self]
    exact hi
  · rw [Function.update_of_ne hj, Function.update_of_ne hj]
    exact h j

theorem Becomes.sound (h : Sound r call w) (hb : Becomes r call w e w') : Sound r call w' := by
  cases hb with
  | same => exact h
  | started i hi =>
    have hfollows := follows_update h.follows (follows_first r (call i) (w.seen i))
    rw [Function.update_eq_self] at hfollows
    exact ⟨h.snapshots, hfollows⟩
  | heard i hseen hfollows hmoves =>
    refine ⟨fun j c hc => ?_, follows_update h.follows hfollows⟩
    dsimp only at hc ⊢
    by_cases hj : j = i
    · subst hj
      exact hseen c (by rwa [Function.update_self] at hc)
    · exact h.snapshots j c (by rwa [Function.update_of_ne hj] at hc)
  | wrote i hstored hseen hpermits hfollows hmoves =>
    have hfollows := follows_update h.follows hfollows
    rw [Function.update_eq_self] at hfollows
    exact ⟨fun j c hc => (h.snapshots j c hc).write hstored, hfollows⟩
  | edited e hstored => exact ⟨fun j c hc => (h.snapshots j c hc).write hstored, h.follows⟩
  | deleted => exact ⟨fun j c hc => (h.snapshots j c hc).delete, h.follows⟩

theorem sound_of_reaches {admits : World ι → Event ι → Prop} {store : Store}
    (h : Reaches r call admits store w) : Sound r call w := by
  induction h with
  | start => exact ⟨fun i c hc => (nomatch hc), fun i => trivial⟩
  | step e hw he ih => exact (next_becomes ih e).sound ih

/-- What holds at first and is kept by all that can happen holds of every world. -/
theorem Reaches.invariant {admits : World ι → Event ι → Prop} {store : Store}
    {P : World ι → Prop} (h : Reaches r call admits store w) (hfresh : P (.fresh store))
    (hstep : ∀ {w w' : World ι} {e : Event ι}, Sound r call w → P w → admits w e →
      Becomes r call w e w' → P w') : P w := by
  induction h with
  | start => exact hfresh
  | step e hw he ih =>
    have hsound := sound_of_reaches hw
    exact hstep hsound ih he (next_becomes hsound e)

end Contention

end RingKeeper
