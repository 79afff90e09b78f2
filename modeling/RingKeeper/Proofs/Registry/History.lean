import RingKeeper.Proofs.Registry.Steps

/-!
# The history of the registry

Nothing is admitted or forbidden here: holders may repeat, and anyone may edit the configmap or
delete it at any time.

1. `OwnEdits` says that each replacement was its caller's own edit of exactly the version that the
   caller had read.
2. `Entry.applyTo` and `Entry.dataAfter` are what one entry of the log makes of the configmap and of
   its data. `view_foldl` says which parts of it a log leaves alone.
3. `recorders` are the calls that recorded an address. `Recorded` says that they are those that
   return, or are about to return, without a fault.
4. `stored_is_history` puts the three together for every world.
-/

namespace RingKeeper

open Registry
open Rehearsal (Call Outcome)

/-! ## The parts of a configmap -/

namespace ConfigMap

/-- An annotation, if there is one. -/
def annotation? (c : ConfigMap) (key : String) : Option String :=
  c.metadata.annotations.bind (·.get? key)

/-- All but the data, the annotations and the version. -/
def frame (c : ConfigMap) : ConfigMap :=
  { c with
    data := none
    metadata := { c.metadata with resourceVersion := none, annotations := none } }

/-- What recording an address makes of the data. -/
def dataWith (data : Option TextTable) (pod address : String) : Option TextTable :=
  some (((data.getD .empty).insert pod address).insert writerKey pod)

theorem data_recordAddress (c : ConfigMap) (pod address : String) :
    (c.recordAddress pod address).data = dataWith c.data pod address := rfl

theorem dataAt?_recordAddress (c : ConfigMap) {pod address key : String} (hpod : pod ≠ key)
    (hwriter : writerKey ≠ key) : (c.recordAddress pod address).dataAt? key = c.dataAt? key := by
  unfold dataAt?
  rw [data_recordAddress]
  unfold dataWith
  rw [Option.bind_some, Table.get?_insert_of_ne _ _ hwriter, Table.get?_insert_of_ne _ _ hpod]
  cases c.data <;> rfl

theorem dataAt?_recordAddress_self (c : ConfigMap) {pod address : String}
    (hpod : pod ≠ writerKey) : (c.recordAddress pod address).dataAt? pod = some address := by
  unfold dataAt?
  rw [data_recordAddress]
  unfold dataWith
  rw [Option.bind_some, Table.get?_insert_of_ne _ _ hpod.symm, Table.get?_insert_self]

theorem annotation?_lockFor (c : ConfigMap) (holder : String) {key : String}
    (hkey : lockKey ≠ key) : (c.lockFor holder).annotation? key = c.annotation? key := by
  unfold annotation? lockFor annotate
  dsimp only
  rw [Option.bind_some, Table.get?_insert_of_ne _ _ hkey]
  cases c.metadata.annotations <;> rfl

end ConfigMap

namespace Contention

variable {ι : Type} {r : Registry} {call : ι → Call} {w w' : World ι} {e : Event ι}

/-! ## Entries of the log -/

/-- Each replacement was an edit that its caller may make, of exactly the version that it read. -/
def OwnEdits (call : ι → Call) (log : List (Entry ι)) : Prop :=
  ∀ x, .write x ∈ log → ∃ (c : ConfigMap) (version : Nat),
    x.read = some (c.atVersion version) ∧ x.found = x.read ∧
    (call x.caller).Permits x.leg (c.atVersion version) ∧
    x.left = ((call x.caller).edit x.leg (c.atVersion version)).atVersion (version + 1)

namespace Entry

/-- What the entry makes of the stored configmap and its version. -/
def applyTo (call : ι → Call) : ConfigMap × Nat → Entry ι → ConfigMap × Nat
  | (c, version), .write x =>
    ((call x.caller).edit x.leg (c.atVersion version), version + 1)
  | (c, version), .edit e => (e.apply (c.atVersion version), version + 1)

/-- What the entry makes of the data. -/
def dataAfter (call : ι → Call) (data : Option TextTable) : Entry ι → Option TextTable
  | .write x =>
    match x.leg, call x.caller with
    | .writing, .commit pod address => ConfigMap.dataWith data pod address
    | _, _ => data
  | .edit e => e.data data

/-- The call that recorded an address with this entry. -/
def recorder? : Entry ι → Option ι
  | .write x => if x.leg = .writing then some x.caller else none
  | .edit _ => none

theorem data_applyTo (call : ι → Call) (p : ConfigMap × Nat) (x : Entry ι) :
    (x.applyTo call p).1.data = x.dataAfter call p.1.data := by
  obtain ⟨c, version⟩ := p
  cases x with
  | edit e => rfl
  | write x =>
    show ((call x.caller).edit x.leg _).data = dataAfter call c.data (.write x)
    unfold dataAfter
    dsimp only
    cases x.leg <;> cases call x.caller <;> rfl

end Entry

/-- The calls that recorded an address, in the order of their writes. -/
def recorders (log : List (Entry ι)) : List ι := log.filterMap Entry.recorder?

theorem data_foldl (call : ι → Call) (log : List (Entry ι)) (p : ConfigMap × Nat) :
    (log.foldl (fun p x => x.applyTo call p) p).1.data =
      log.foldl (fun data x => x.dataAfter call data) p.1.data := by
  induction log generalizing p with
  | nil => rfl
  | cons x log ih =>
    rw [List.foldl_cons, List.foldl_cons, ih, Entry.data_applyTo]

/-- A part of the configmap that no entry of the log changes is as it was at first. -/
theorem view_foldl {β : Type} (view : ConfigMap → β)
    (hversion : ∀ c version, view (c.atVersion version) = view c) {log : List (Entry ι)}
    (hwrites : ∀ x, .write x ∈ log → ∀ c, view ((call x.caller).edit x.leg c) = view c)
    (hedits : ∀ e, .edit e ∈ log → ∀ c, view (e.apply c) = view c) (p : ConfigMap × Nat) :
    view (log.foldl (fun p x => x.applyTo call p) p).1 = view p.1 := by
  induction log generalizing p with
  | nil => rfl
  | cons x log ih =>
    have hrest := ih (fun x hx => hwrites x (List.mem_cons_of_mem _ hx))
      (fun e he => hedits e (List.mem_cons_of_mem _ he)) (x.applyTo call p)
    rw [List.foldl_cons, hrest]
    obtain ⟨c, version⟩ := p
    cases x with
    | write x => exact (hwrites x List.mem_cons_self _).trans (hversion c version)
    | edit e => exact (hedits e List.mem_cons_self _).trans (hversion c version)

end Contention

/-- A call's own edit sets the lock, records its address, or is none. -/
theorem Rehearsal.Call.edit_cases (call : Call) (leg : Contention.Leg) (c : ConfigMap) :
    call.edit leg c = c ∨ (∃ holder, call.edit leg c = c.lockFor holder) ∨
      ∃ pod address, leg = .writing ∧ call = .commit pod address ∧
        call.edit leg c = c.recordAddress pod address := by
  cases leg with
  | reading => exact Or.inl (by cases call <;> rfl)
  | freeing => exact Or.inr (Or.inl ⟨"", call.edit_freeing c⟩)
  | taking =>
    cases call with
    | acquire holder => exact Or.inr (Or.inl ⟨holder, rfl⟩)
    | commit pod address => exact Or.inr (Or.inl ⟨pod, rfl⟩)
    | _ => exact Or.inl rfl
  | writing =>
    cases call with
    | commit pod address => exact Or.inr (Or.inr ⟨pod, address, rfl, rfl, rfl⟩)
    | _ => exact Or.inl rfl

namespace Contention

variable {ι : Type} {r : Registry} {call : ι → Call} {w w' : World ι} {e : Event ι}

theorem mem_recorders {log : List (Entry ι)} {x : Write ι} (hx : .write x ∈ log)
    (hleg : x.leg = .writing) : x.caller ∈ recorders log := by
  refine List.mem_filterMap.mpr ⟨.write x, hx, ?_⟩
  exact if_pos hleg

theorem dataAt?_edit {log : List (Entry ι)} {key : String} (hwriter : writerKey ≠ key)
    (hpods : ∀ i ∈ recorders log, ∀ address, call i ≠ .commit key address) {x : Write ι}
    (hx : .write x ∈ log) (c : ConfigMap) :
    ((call x.caller).edit x.leg c).dataAt? key = c.dataAt? key := by
  rcases (call x.caller).edit_cases x.leg c with h | ⟨holder, h⟩ | ⟨pod, address, hleg, hcall, h⟩
  · rw [h]
  · rw [h]
    exact ConfigMap.dataAt?_annotate _ _ _ _
  · rw [h]
    refine ConfigMap.dataAt?_recordAddress c ?_ hwriter
    rintro rfl
    exact hpods x.caller (mem_recorders hx hleg) address hcall

theorem annotation?_edit (call : Call) (leg : Leg) {key : String} (hkey : lockKey ≠ key)
    (c : ConfigMap) : (call.edit leg c).annotation? key = c.annotation? key := by
  rcases call.edit_cases leg c with h | ⟨holder, h⟩ | ⟨pod, address, -, -, h⟩
  · rw [h]
  · rw [h, ConfigMap.annotation?_lockFor c holder hkey]
  · rw [h]
    rfl

theorem frame_edit (call : Call) (leg : Leg) (c : ConfigMap) :
    (call.edit leg c).frame = c.frame := by
  rcases call.edit_cases leg c with h | ⟨holder, h⟩ | ⟨pod, address, -, -, h⟩ <;> rw [h] <;> rfl

/-! ## Who recorded an address -/

/-- Whether the call has recorded its address. -/
def Activity.HasRecorded : Activity → Prop
  | .freeing (some (.ok _)) _ => True
  | .returned (.updated (.ok _)) => True
  | _ => False

@[simp] theorem not_hasRecorded_reading (rest : Procedure Outcome) :
    ¬ (Activity.reading rest).HasRecorded := id

@[simp] theorem not_hasRecorded_taking (rest : Procedure (Attempt Guard)) :
    ¬ (Activity.taking rest).HasRecorded := id

@[simp] theorem not_hasRecorded_writing (guard : Guard) (rest : Procedure (Attempt Unit)) :
    ¬ (Activity.writing guard rest).HasRecorded := id

theorem hasRecorded_afterFreeing (written : Option (Attempt Unit)) (freed : Bool)
    (rest : Procedure Bool) :
    (Activity.returned (Activity.afterFreeing written freed)).HasRecorded ↔
      (Activity.freeing written rest).HasRecorded := by
  cases written with
  | none => exact Iff.rfl
  | some w => cases w <;> exact Iff.rfl

/-- A call has recorded its address exactly if it made its edit while it was writing. -/
theorem Moves.hasRecorded_iff {call : Call} {made : Bool} {a b : Activity}
    (h : Moves r call made a b) :
    b.HasRecorded ↔ a.HasRecorded ∨ made = true ∧ a.leg = .writing := by
  cases h with
  | @hasRead rest outcome h hcall =>
    have hno : ¬ (Activity.returned outcome).HasRecorded := by
      cases outcome with
      | updated written => cases call <;> first | exact h.elim | cases hcall
      | _ => exact id
    simp [hno]
  | @hasTaken made rest holder taken hcall h =>
    have hno : ¬ (Activity.afterTaking r call taken).HasRecorded := by
      rcases hcall with rfl | ⟨address, rfl⟩ <;> cases taken <;> exact id
    simp [hno, Activity.leg]
  | @hasWritten made guard rest written h =>
    have hiff : (Activity.freeing (some written) guard.release).HasRecorded ↔ made = true := by
      cases made with
      | true =>
        obtain rfl : written = .ok () := h
        exact ⟨fun _ => rfl, fun _ => trivial⟩
      | false =>
        obtain ⟨f, rfl⟩ := h
        exact ⟨False.elim, fun h => nomatch h⟩
    simp [hiff, Activity.leg]
  | @frees written rest rest' =>
    rw [← hasRecorded_afterFreeing written true, hasRecorded_afterFreeing written true rest]
    simp
  | @hasFreed made written rest freed h =>
    rw [hasRecorded_afterFreeing written freed rest]
    simp [Activity.leg]
  | _ => simp

/-- No call has recorded its address when it begins. -/
theorem not_hasRecorded_first (r : Registry) (call : Call) :
    ¬ ((Activity.first r call).settle r call).HasRecorded := by
  cases call <;> exact id

/-- The calls that recorded an address did so once, and know it. -/
structure Recorded (w : World ι) : Prop where
  nodup : (recorders w.log).Nodup
  mem_iff : ∀ i, i ∈ recorders w.log ↔ (w.activity i).HasRecorded

theorem recorders_append (log : List (Entry ι)) (x : Entry ι) :
    recorders (log ++ [x]) = recorders log ++ x.recorder?.toList := by
  unfold recorders
  rw [List.filterMap_append]
  cases h : x.recorder? <;> simp [h]

variable [DecidableEq ι]

/-- The recorders stay right when a call goes on and its write, if it made one, is logged. -/
theorem Recorded.update (h : Recorded w) {i : ι} {made : Bool} {a : Activity}
    (hmoves : Moves r (call i) made (w.activity i) a)
    (hactivity : w'.activity = Function.update w.activity i a)
    (hlog : recorders w'.log =
      recorders w.log ++ if made = true ∧ (w.activity i).leg = .writing then [i] else []) :
    Recorded w' := by
  constructor
  · rw [hlog]
    split
    · rename_i hmade
      have hnot : i ∉ recorders w.log := by
        rw [h.mem_iff i]
        cases hact : w.activity i with
        | writing guard rest => exact id
        | _ => rw [hact] at hmade; cases hmade.2
      refine List.nodup_append.mpr ⟨h.nodup, by simp, fun j hj k hk => ?_⟩
      rw [List.mem_singleton.mp hk]
      exact fun hji => hnot (hji ▸ hj)
    · rw [List.append_nil]
      exact h.nodup
  · intro j
    rw [hlog, hactivity, List.mem_append, h.mem_iff j]
    by_cases hji : j = i
    · subst hji
      rw [Function.update_self, hmoves.hasRecorded_iff]
      split <;> simp [*]
    · rw [Function.update_of_ne hji]
      split <;> simp [hji]

theorem Recorded.step (h : Recorded w) (hb : Becomes r call w e w') : Recorded w' := by
  cases hb with
  | same => exact h
  | started i hi =>
    refine ⟨h.nodup, fun j => (h.mem_iff j).trans ?_⟩
    dsimp only
    by_cases hji : j = i
    · subst hji
      rw [Function.update_self, hi]
      exact ⟨False.elim, fun hrec => (not_hasRecorded_first r (call j) hrec).elim⟩
    · rw [Function.update_of_ne hji]
  | heard i hseen hfollows hmoves => exact h.update hmoves rfl (by simp)
  | wrote i hstored hseen hpermits hfollows hmoves =>
    refine h.update hmoves rfl ((recorders_append _ _).trans ?_)
    unfold Entry.recorder?
    dsimp only
    split <;> simp [*]
  | edited e hstored =>
    have hlog : recorders (w.log ++ [.edit e]) = recorders w.log := by
      rw [recorders_append]
      exact List.append_nil _
    exact ⟨by rw [hlog]; exact h.nodup, fun j => by rw [hlog]; exact h.mem_iff j⟩
  | deleted => exact ⟨h.nodup, h.mem_iff⟩

/-! ## The whole history -/

/-- What the log accounts for in a world that began with this configmap in this version. -/
structure Accounted (call : ι → Call) (first : ConfigMap × Nat) (w : World ι) : Prop where
  own : OwnEdits call w.log
  stored : ∀ p, w.store.stored = some p → p = w.log.foldl (fun p x => x.applyTo call p) first
  recorded : Recorded w

theorem Accounted.step {first : ConfigMap × Nat} (h : Accounted call first w)
    (hb : Becomes r call w e w') : Accounted call first w' := by
  refine ⟨?_, ?_, h.recorded.step hb⟩
  · cases hb with
    | wrote i hstored hseen hpermits hfollows hmoves =>
      intro x hx
      rcases List.mem_append.mp hx with hx | hx
      · exact h.own x hx
      · cases List.mem_singleton.mp hx
        exact ⟨_, _, hseen, (Store.configMap?_eq hstored).trans hseen.symm, hpermits, rfl⟩
    | edited e hstored =>
      intro x hx
      rcases List.mem_append.mp hx with hx | hx
      · exact h.own x hx
      · cases List.mem_singleton.mp hx
    | _ => exact h.own
  · cases hb with
    | wrote i hstored hseen hpermits hfollows hmoves =>
      intro p hp
      cases hp
      rw [List.foldl_append, ← h.stored _ hstored]
      rfl
    | edited e hstored =>
      intro p hp
      cases hp
      rw [List.foldl_append, ← h.stored _ hstored]
      rfl
    | deleted => exact fun p hp => nomatch hp
    | _ => exact h.stored

theorem accounted_of_reaches {first : ConfigMap × Nat} {admits : World ι → Event ι → Prop}
    (hw : Reaches r call admits ⟨some first⟩ w) : Accounted call first w := by
  refine hw.invariant ⟨fun x hx => (nomatch hx), ?_, List.nodup_nil, fun i => ?_⟩
    fun _ h _ hb => h.step hb
  · intro p hp
    cases hp
    rfl
  · exact ⟨fun h => (nomatch h), False.elim⟩

/--
**The registry is its history.** Whatever the calls, the failures and the writes of others:

- each replacement was its caller's own edit of exactly the version that the caller had read;
- once no call is under way, the calls that recorded an address are those that returned without a
  fault, and each of them did so once;
- as long as the configmap is there, it is what these edits and those of others made of the first
  one, in the order in which they were written. So is its data; and what nobody else edits is as it
  was, apart from the lock, the addresses and the name of the last writer.
-/
theorem stored_is_history (r : Registry) (call : ι → Call) (first : ConfigMap × Nat)
    (hw : Reaches r call (fun _ _ => True) ⟨some first⟩ w) :
    OwnEdits call w.log ∧
      ((∀ i, ¬ (w.activity i).IsUnderWay) → (recorders w.log).Nodup ∧
        ∀ i, i ∈ recorders w.log ↔ w.activity i = .returned (.updated (.ok ()))) ∧
      ∀ c version, w.store.stored = some (c, version) →
        (c, version) = w.log.foldl (fun p x => x.applyTo call p) first ∧
        c.data = w.log.foldl (fun data x => x.dataAfter call data) first.1.data ∧
        (∀ key, (∀ e, .edit e ∈ w.log → ∀ d, (e.apply d).dataAt? key = d.dataAt? key) →
          key ≠ writerKey → (∀ i ∈ recorders w.log, ∀ address, call i ≠ .commit key address) →
          c.dataAt? key = first.1.dataAt? key) ∧
        (∀ key, (∀ e, .edit e ∈ w.log → ∀ d, (e.apply d).annotation? key = d.annotation? key) →
          key ≠ lockKey → c.annotation? key = first.1.annotation? key) ∧
        ((∀ e, .edit e ∈ w.log → ∀ d, (e.apply d).frame = d.frame) → c.frame = first.1.frame) := by
  have h := accounted_of_reaches hw
  refine ⟨h.own, fun hquiet => ⟨h.recorded.nodup, fun i => ?_⟩, fun c version hstored => ?_⟩
  · rw [h.recorded.mem_iff i]
    have hi := hquiet i
    cases hact : w.activity i with
    | waiting => exact ⟨False.elim, fun h => nomatch h⟩
    | returned outcome =>
      cases outcome with
      | updated written =>
        cases written with
        | ok u => exact ⟨fun _ => rfl, fun _ => trivial⟩
        | error f => exact ⟨False.elim, fun h => nomatch h⟩
      | _ => exact ⟨False.elim, fun h => nomatch h⟩
    | _ => exact absurd (by rw [hact]; trivial) hi
  · have hfold := h.stored _ hstored
    have hc : c = (w.log.foldl (fun p x => x.applyTo call p) first).1 := congrArg Prod.fst hfold
    refine ⟨hfold, ?_, fun key hedits hwriter hpods => ?_, fun key hedits hkey => ?_,
      fun hedits => ?_⟩
    · rw [hc]
      exact data_foldl call w.log first
    · rw [hc]
      exact view_foldl (·.dataAt? key) (fun _ _ => rfl)
        (fun x hx => dataAt?_edit hwriter.symm hpods hx) hedits first
    · rw [hc]
      exact view_foldl (·.annotation? key) (fun _ _ => rfl)
        (fun x _ => annotation?_edit _ _ hkey.symm) hedits first
    · rw [hc]
      exact view_foldl ConfigMap.frame (fun _ _ => rfl) (fun x _ => frame_edit _ _) hedits first

/-- Two pods that record their addresses. -/
def recording : Bool → Call
  | true => .commit "pod-0" "10.0.0.1"
  | false => .commit "pod-1" "10.0.0.2"

def emptyRegistry : ConfigMap := { metadata := { name := some "registry" } }

/-- Both pods try to take the lock in the version that they read; the second one is refused. -/
def recordingRun : World Bool :=
  (World.fresh ⟨some (emptyRegistry, 1)⟩).run ⟨"registry"⟩ recording
    [.start true, .start false, .answer true, .answer false, .answer true, .answer false,
      .answer false, .answer true, .answer true, .answer true, .answer true]

theorem stored_is_history_recording :
    ∃ c, recordingRun.store.stored = some (c, 4) ∧
      c.data = recordingRun.log.foldl (fun data x => x.dataAfter recording data) none ∧
      ∀ i, i ∈ recorders recordingRun.log ↔
        recordingRun.activity i = .returned (.updated (.ok ())) := by
  have hreached : Reaches ⟨"registry"⟩ recording (fun _ _ => True) ⟨some (emptyRegistry, 1)⟩
      recordingRun := by
    exact Reaches.start.run ⟨trivial, trivial, trivial, trivial, trivial, trivial, trivial,
      trivial, trivial, trivial, trivial, trivial⟩
  have hquiet : ∀ i, ¬ (recordingRun.activity i).IsUnderWay := by
    intro i
    cases i <;> exact id
  obtain ⟨-, hrecorders, hstored⟩ :=
    stored_is_history ⟨"registry"⟩ recording (emptyRegistry, 1) hreached
  obtain ⟨c, hc⟩ : ∃ c, recordingRun.store.stored = some (c, 4) := ⟨_, rfl⟩
  exact ⟨c, hc, (hstored c 4 hc).2.1, (hrecorders hquiet).2⟩

end Contention

end RingKeeper
