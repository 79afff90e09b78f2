import RingKeeper.Proofs.Registry.Api
import RingKeeper.Proofs.Registry.Contract

/-!
# What results tell of the replies

1. `runs_remoteAnswer`: a call to the store sends at most one request, and its result is what the
   reply says.
2. `TellsApart` lists what this comes to: each of the two faults of the registry has a status of its
   own, no other status is taken for one of them, counts as a released lock or ends the retries.
   `tellsApart` proves it of every registry.
-/

namespace RingKeeper.Registry

open Kube (Refusal Reply Request)
open Plan (Exchange Notes)
open Rehearsal (Call Outcome)

/-- A request with its reply. -/
abbrev Sent : Type := Exchange fun _ : Request => Reply

/-- If the reply refuses and explains itself, it does so under the code of its status. -/
def IsExplained : Reply → Prop
  | .broken _ => True
  | .answer status body => Kube.refuses status = true → Explains status body

/-- One of the requests was answered with this status. -/
def HasStatus (past : List Sent) (status : Nat) : Prop :=
  ∃ e ∈ past, ∃ said, e.2 = .answer status said

/-- How the faults of a registry tell of the replies to its requests. -/
structure TellsApart (inNamespace : String) (r : Registry) : Prop where
  missing : ∀ {q : Question} {x : Answer q} {past : List Sent} {e : Sent} {said : Option Json},
    Plan.Runs Notes (remoteAnswer inNamespace q) [] x past → e ∈ past → e.2 = .answer 404 said →
    Explains 404 said → x = .error (.ofKind (.registryNotFound q.name))
  stale : ∀ {c : ConfigMap} {x : Answer (.replace c)} {past : List Sent} {e : Sent}
    {said : Option Json}, Plan.Runs Notes (remoteAnswer inNamespace (.replace c)) [] x past →
    e ∈ past → e.2 = .answer 409 said → Explains 409 said →
    x = .error (.ofKind (.conflict c.name))
  failed : ∀ {q : Question} {x : Answer q} {past : List Sent} {e : Sent},
    Plan.Runs Notes (remoteAnswer inNamespace q) [] x past → e ∈ past → Fails e.1.method e.2 →
    ∃ text, x = .error (.ofKind (.cluster text))
  /-- A lock counts as released only if all requests were answered well. -/
  released : ∀ {holder : String} {past : List Sent},
    Plan.Runs Notes (remote inNamespace (r.release holder)) [] true past →
    ∀ e ∈ past, ¬ Fails e.1.method e.2
  fatal : ∀ {call : Call} {o : Outcome} {f : Fault} {past : List Sent},
    Plan.Runs Notes (remote inNamespace (call.procedure r)) [] o past →
    (∀ e ∈ past, IsExplained e.2) → o.fault? = some f → f.isFatal = true → HasStatus past 404
  conflict : ∀ {call : Call} {o : Outcome} {f : Fault} {name : String} {past : List Sent},
    Plan.Runs Notes (remote inNamespace (call.procedure r)) [] o past →
    (∀ e ∈ past, IsExplained e.2) → o.fault? = some f → f.kind = .conflict name →
    HasStatus past 409

variable {inNamespace : String} {q : Question} {x : Answer q} {reply : Reply}
  {past past' : List Sent} {e : Sent}

/-! ## Single calls to the store -/

theorem understand_unsendable (q : Question) : ∃ text,
    q.understand (.error .unsendable) = .error (.ofKind (.cluster text)) := by
  cases q <;> exact ⟨_, rfl⟩

theorem runs_remoteAnswer {S : Type} {react : (q : Request) → S → Reply → S → Prop} {s s' : S}
    (h : Plan.Runs react (remoteAnswer inNamespace q) s x s') :
    (Kube.sentPath? (configMapPath inNamespace q.name) = none ∧ s' = s ∧
        ∃ text, x = .error (.ofKind (.cluster text))) ∨
      ∃ path reply, Kube.sentPath? (configMapPath inNamespace q.name) = some path ∧
        react { q.request inNamespace with path } s reply s' ∧
        x = q.understand (Kube.judge reply) := by
  rw [remoteAnswer_eq] at h
  split at h
  · rename_i hpath
    obtain ⟨rfl, rfl⟩ := Plan.runs_done.mp h
    exact Or.inl ⟨hpath, rfl, understand_unsendable q⟩
  · rename_i path hpath
    obtain ⟨reply, t, hreact, hdone⟩ := Plan.runs_ask.mp h
    obtain ⟨rfl, rfl⟩ := Plan.runs_done.mp hdone
    exact Or.inr ⟨path, reply, hpath, hreact, rfl⟩

/-- A reply that was noted during the call is the one that its result was read from. -/
theorem mem_or_eq_understand (h : Plan.Runs Notes (remoteAnswer inNamespace q) past x past')
    (he : e ∈ past') :
    e ∈ past ∨ e.1.method = q.method ∧ x = q.understand (Kube.judge e.2) := by
  rcases runs_remoteAnswer h with ⟨-, rfl, -⟩ | ⟨path, reply, -, hnotes, rfl⟩
  · exact Or.inl he
  · rw [show past' = _ from hnotes] at he
    rcases List.mem_cons.mp he with rfl | he
    · exact Or.inr ⟨method_request inNamespace q, rfl⟩
    · exact Or.inl he

theorem eq_understand (h : Plan.Runs Notes (remoteAnswer inNamespace q) [] x past)
    (he : e ∈ past) : e.1.method = q.method ∧ x = q.understand (Kube.judge e.2) :=
  (mem_or_eq_understand h he).resolve_left List.not_mem_nil

/-- A call that does not come back with a fault of the cluster was answered well. -/
theorem not_fails_of_runs (h : Plan.Runs Notes (remoteAnswer inNamespace q) past x past')
    (hx : ∀ text, x ≠ .error (.ofKind (.cluster text)))
    (hpast : ∀ e ∈ past, ¬ Fails e.1.method e.2) :
    ∀ e ∈ past', ¬ Fails e.1.method e.2 := by
  intro e he hfails
  rcases mem_or_eq_understand h he with he | ⟨hmethod, rfl⟩
  · exact hpast e he hfails
  · rw [hmethod] at hfails
    obtain ⟨text, htext⟩ := understand_fails q hfails
    exact hx text htext

/-! ## Faults of whole calls -/

theorem judge_of_isExplained {code : Nat} {reason message : String} (hreply : IsExplained reply)
    (h : Kube.judge reply = .error (.refused code reason message)) :
    ∃ said, reply = .answer code said := by
  cases reply with
  | broken text => cases h
  | answer status body =>
    simp only [Kube.judge] at h
    split at h
    · rename_i hrefuses
      cases hr : body.bind Kube.refusalOf? with
      | none =>
        rw [hr] at h
        cases h
        exact ⟨body, rfl⟩
      | some refusal =>
        rw [hr] at h
        cases h
        obtain rfl := hreply hrefuses code reason message hr
        exact ⟨body, rfl⟩
    · cases h

theorem judge_of_readBody {code : Nat} {reason message : String}
    {r : Except Refusal (Option Json)}
    (h : Kube.readBody ConfigMap.ofJson r = .error (.refused code reason message)) :
    r = .error (.refused code reason message) := by
  cases r with
  | error refusal =>
    cases h
    rfl
  | ok body =>
    simp only [Kube.readBody] at h
    split at h <;> cases h

/-- A fault that trying again does not mend is told of by a reply of the one status, and a conflict
by one of the other. -/
def IsTold (missing stale : Prop) (f : Fault) : Prop :=
  (f.isFatal = true → missing) ∧ ∀ name, f.kind = .conflict name → stale

variable {missing stale : Prop} {refusal : Refusal}

/-- Nothing is asked of the configmaps, only of the faults. -/
def tellingContract (r : Registry) (missing stale : Prop) : Contract r where
  entry _ := True
  fault := IsTold missing stale
  lockFor _ _ _ := trivial
  recordAddress _ _ _ _ := trivial
  lockHeld _ := ⟨nofun, nofun⟩
  conflict _ name hf hkind := ⟨nofun, fun _ _ => hf.2 name hkind⟩

theorem isTold_cluster (text : String) : IsTold missing stale (.ofKind (.cluster text)) :=
  ⟨nofun, nofun⟩

theorem isTold_lookupFault (name : String)
    (hmissing : ∀ reason message, refusal = .refused 404 reason message → missing) :
    IsTold missing stale (lookupFault name refusal) := by
  unfold lookupFault
  split
  · exact ⟨fun _ => hmissing _ _ rfl, nofun⟩
  · exact isTold_cluster _

theorem isTold_replacementFault (name : String)
    (hmissing : ∀ reason message, refusal = .refused 404 reason message → missing)
    (hstale : ∀ reason message, refusal = .refused 409 reason message → stale) :
    IsTold missing stale (replacementFault name refusal) := by
  unfold replacementFault
  split
  · exact ⟨fun _ => hmissing _ _ rfl, nofun⟩
  · exact ⟨nofun, fun _ _ => hstale _ _ rfl⟩
  · exact isTold_cluster _

/-- A reply that holds no configmap tells of a fault by its status. -/
theorem meets_understand (q : Question) (hreply : IsExplained reply)
    (hmissing : ∀ said, reply = .answer 404 said → missing)
    (hstale : ∀ said, reply = .answer 409 said → stale) :
    Attempt.Meets (fun _ => True) (IsTold missing stale) (q.understand (Kube.judge reply)) := by
  have hstatus : ∀ {refusal : Refusal}, Kube.readBody ConfigMap.ofJson (Kube.judge reply) =
      .error refusal → ∀ code reason message, refusal = .refused code reason message →
      ∃ said, reply = .answer code said := by
    rintro _ hread code reason message rfl
    exact judge_of_isExplained hreply (judge_of_readBody hread)
  cases q with
  | get name =>
    simp only [Question.understand]
    cases hread : Kube.readBody ConfigMap.ofJson (Kube.judge reply) with
    | ok c => trivial
    | error refusal =>
      refine isTold_lookupFault name fun reason message h => ?_
      obtain ⟨said, hsaid⟩ := hstatus hread 404 reason message h
      exact hmissing said hsaid
  | replace c =>
    simp only [Question.understand]
    cases hread : Kube.readBody ConfigMap.ofJson (Kube.judge reply) with
    | ok c => trivial
    | error refusal =>
      refine isTold_replacementFault c.name (fun reason message h => ?_) fun reason message h => ?_
      · obtain ⟨said, hsaid⟩ := hstatus hread 404 reason message h
        exact hmissing said hsaid
      · obtain ⟨said, hsaid⟩ := hstatus hread 409 reason message h
        exact hstale said hsaid

/-- What the replies have told of, the faults of a call tell of. -/
theorem isTold_of_runs {r : Registry} {call : Call} {o : Outcome} {f : Fault}
    (h : Plan.Runs Notes (remote inNamespace (call.procedure r)) [] o past)
    (hpast : ∀ e ∈ past, IsExplained e.2) (hf : o.fault? = some f) :
    IsTold (HasStatus past 404) (HasStatus past 409) f := by
  have hcall := (tellingContract r (HasStatus past 404) (HasStatus past 409)).ensures_procedure call
  have hanswer : ∀ q, Plan.Ensures (fun _ => True) (fun _ reply => ∃ e ∈ past, e.2 = reply)
      (Attempt.Meets (fun _ => True) (IsTold (HasStatus past 404) (HasStatus past 409)))
      (remoteAnswer inNamespace q) := by
    intro q
    rw [remoteAnswer_eq]
    split
    · obtain ⟨text, htext⟩ := understand_unsendable q
      rw [htext]
      exact isTold_cluster text
    · refine ⟨trivial, ?_⟩
      rintro reply ⟨e, he, rfl⟩
      exact meets_understand q (hpast e he) (fun said hsaid => ⟨e, he, said, hsaid⟩)
        fun said hsaid => ⟨e, he, said, hsaid⟩
  exact (hcall.perform fun q _ => hanswer q).ends_of_notes h (fun e he => ⟨e, he, rfl⟩) f hf

/-! ## Released locks -/

theorem released_of_runs {r : Registry} {holder : String}
    (h : Plan.Runs Notes (remote inNamespace (r.release holder)) [] true past) :
    ∀ e ∈ past, ¬ Fails e.1.method e.2 := by
  have h := Plan.runs_perform.mp h
  unfold release at h
  obtain ⟨x, past₁, hget, h⟩ := Plan.runs_bind.mp h
  have hget := Plan.runs_request.mp hget
  cases x with
  | error f =>
    dsimp only at h
    split at h
    · rename_i name hkind
      obtain ⟨-, rfl⟩ := Plan.runs_done.mp h
      refine not_fails_of_runs hget (fun text hf => ?_) nofun
      cases hf
      cases hkind
    · exact nomatch (Plan.runs_done.mp h).1
  | ok c =>
    have hpast₁ := not_fails_of_runs hget nofun nofun
    dsimp only at h
    split at h
    · obtain ⟨y, past₂, hreplace, h⟩ := Plan.runs_bind.mp h
      cases y with
      | error f => exact nomatch (Plan.runs_done.mp h).1
      | ok d =>
        obtain ⟨-, rfl⟩ := Plan.runs_done.mp h
        exact not_fails_of_runs (Plan.runs_request.mp hreplace) nofun hpast₁
    · obtain ⟨-, rfl⟩ := Plan.runs_done.mp h
      exact hpast₁

theorem tellsApart (inNamespace : String) (r : Registry) : TellsApart inNamespace r where
  missing h he hreply hsaid := by
    rw [(eq_understand h he).2, hreply]
    exact understand_missing _ hsaid
  stale h he hreply hsaid := by
    rw [(eq_understand h he).2, hreply]
    exact understand_stale _ hsaid
  failed h he hfails := by
    rw [(eq_understand h he).2]
    rw [(eq_understand h he).1] at hfails
    exact understand_fails _ hfails
  released h := released_of_runs h
  fatal h hpast hf := (isTold_of_runs h hpast hf).1
  conflict h hpast hf hkind := (isTold_of_runs h hpast hf).2 _ hkind

end RingKeeper.Registry
