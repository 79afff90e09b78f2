import RingKeeper.Proofs.Plan
import RingKeeper.Proofs.Registry.Shelf
import RingKeeper.Registry.Remote

/-!
# Calls to the store as calls to the API

1. `Server` keeps configmaps by namespace and name, and `Server.Reacts` is how it may react to a
   request. It speaks in documents and codes, and may fail at any time.
2. `remoteAnswer_eq` says that a call to the store is one request, and `understand_missing`,
   `understand_stale`, `understand_object` and `understand_fails` what each reply says.
3. `Reacts.answers` and `Answers.exists_reacts`: the replies of the API say exactly what a shelf
   answers.
-/

namespace RingKeeper.Registry

open Kube (Refusal Reply Request)

/-! ## The API -/

/-- The namespaces of the API, and all versions that were ever given to a configmap in them. -/
structure Server where
  kept : String → String → Option ConfigMap
  versions : Set String

/-- A refusing answer that explains itself gives the code of its status. -/
def Explains (status : Nat) (body : Option Json) : Prop :=
  ∀ code reason message, body.bind Kube.refusalOf? = some (.refused code reason message) →
    code = status

/-- The call broke off or was answered by something else than what these calls are answered by. Only
a replacement can be stale. -/
inductive Fails (method : Kube.Method) : Reply → Prop where
  | broken (text : String) : Fails method (.broken text)
  | refused {status : Nat} {body : Option Json} (h : Kube.refuses status = true)
    (hmissing : status ≠ 404) (hstale : method = .put → status ≠ 409)
    (hbody : Explains status body) : Fails method (.answer status body)
  | unreadable {status : Nat} {body : Option Json} (h : Kube.refuses status = false)
    (hbody : body.bind ConfigMap.ofJson = none) : Fails method (.answer status body)

namespace Server

/-- One namespace is a store of its own. -/
def shelf (s : Server) (inNamespace : String) : Shelf := ⟨s.kept inNamespace, s.versions⟩

def empty : Server := ⟨fun _ _ => none, ∅⟩

/-- Keeps the configmap in a new version. -/
def keep (s : Server) (inNamespace name : String) (c : ConfigMap) (version : String) : Server where
  kept := Function.update s.kept inNamespace
    (Function.update (s.kept inNamespace) name (some (c.withVersion version)))
  versions := insert version s.versions

/-- Every configmap is kept under its own name, and in a version that was given out. -/
structure IsSound (s : Server) : Prop where
  entry : ∀ inNamespace name c, s.kept inNamespace name = some c → c.IsEntry name
  path : ∀ inNamespace name c, s.kept inNamespace name = some c →
    '/' ∉ inNamespace.toList ∧ name ≠ ""
  version : ∀ inNamespace name c, s.kept inNamespace name = some c →
    ∃ version ∈ s.versions, c.metadata.resourceVersion = some version

/-- The document may replace a configmap: it is read as one of the same name and version, and the
new version has not been given out yet. -/
structure Accepts (s : Server) (inNamespace name : String) (body : Json) (c d : ConfigMap)
    (version : String) : Prop where
  kept : s.kept inNamespace name = some d
  body : ConfigMap.ofJson body = some c
  name : c.metadata.name = some name
  upToDate : c.metadata.resourceVersion = d.metadata.resourceVersion
  fresh : version ∉ s.versions

/-- How the API may react to a request. What it has to say of a configmap it may say in any document
that is read so. -/
inductive Reacts : Request → Server → Reply → Server → Prop where
  | found {s : Server} {inNamespace name : String} {c : ConfigMap} {status : Nat} {j : Json}
    (h : s.kept inNamespace name = some c) (hstatus : Kube.refuses status = false)
    (hj : ConfigMap.ofJson j = some c) :
    Reacts { method := .get, path := configMapPath inNamespace name } s (.answer status (some j)) s
  | replaced {s : Server} {inNamespace name version : String} {c d : ConfigMap} {status : Nat}
    {body j : Json} (h : s.Accepts inNamespace name body c d version)
    (hstatus : Kube.refuses status = false)
    (hj : ConfigMap.ofJson j = some (c.withVersion version)) :
    Reacts { method := .put, path := configMapPath inNamespace name, body := some body } s
      (.answer status (some j)) (s.keep inNamespace name c version)
  /-- The configmap was replaced, but the client does not learn of it. -/
  | lost {s : Server} {inNamespace name version : String} {c d : ConfigMap} {body : Json}
    {reply : Reply} (h : s.Accepts inNamespace name body c d version) (hreply : Fails .put reply) :
    Reacts { method := .put, path := configMapPath inNamespace name, body := some body } s reply
      (s.keep inNamespace name c version)
  | stale {s : Server} {inNamespace name : String} {c d : ConfigMap} {body : Json}
    {said : Option Json} (h : s.kept inNamespace name = some d)
    (hbody : ConfigMap.ofJson body = some c)
    (hversion : c.metadata.resourceVersion ≠ d.metadata.resourceVersion)
    (hsaid : Explains 409 said) :
    Reacts { method := .put, path := configMapPath inNamespace name, body := some body } s
      (.answer 409 said) s
  | missing {s : Server} {method : Kube.Method} {inNamespace name : String}
    {body said : Option Json} (hnamespace : '/' ∉ inNamespace.toList) (hname : name ≠ "")
    (h : s.kept inNamespace name = none) (hsaid : Explains 404 said) :
    Reacts { method, path := configMapPath inNamespace name, body } s (.answer 404 said) s
  | failed {s : Server} {request : Request} {reply : Reply} (h : Fails request.method reply) :
    Reacts request s reply s

end Server

/-! ## One call, one request -/

namespace Question

def method : Question → Kube.Method
  | .get _ => .get
  | .replace _ => .put

/-- The request that the call is sent as. -/
def request (inNamespace : String) : Question → Request
  | .get name => { method := .get, path := configMapPath inNamespace name }
  | .replace c =>
    { method := .put, path := configMapPath inNamespace c.name, body := some c.toJson }

/-- What the outcome of the request says to the caller. -/
def understand : (q : Question) → Except Refusal (Option Json) → Answer q
  | .get name, r =>
    match Kube.readBody ConfigMap.ofJson r with
    | .ok c => .ok c
    | .error r => .error (lookupFault name r)
  | .replace c, r =>
    match Kube.readBody ConfigMap.ofJson r with
    | .ok c => .ok c
    | .error r => .error (replacementFault c.name r)

end Question

variable {q : Question} {x : Answer q} {inNamespace name : String} {c d : ConfigMap}
  {s s' : Server} {t t' : Shelf} {reply : Reply}

theorem remoteAnswer_get (inNamespace name : String) : remoteAnswer inNamespace (.get name) =
    (Kube.send .get (configMapPath inNamespace name) >>= fun r =>
      pure (Question.understand (.get name) r)) := by
  simp only [remoteAnswer, Kube.get, bind_assoc, pure_bind]
  refine congrArg (Kube.send .get (configMapPath inNamespace name) >>= ·) (funext fun r => ?_)
  simp only [Question.understand]
  cases Kube.readBody ConfigMap.ofJson r <;> rfl

theorem remoteAnswer_replace (inNamespace : String) (c : ConfigMap) :
    remoteAnswer inNamespace (.replace c) =
      (Kube.send .put (configMapPath inNamespace c.name) (some c.toJson) >>= fun r =>
        pure (Question.understand (.replace c) r)) := by
  simp only [remoteAnswer, Kube.put, bind_assoc, pure_bind]
  refine congrArg (Kube.send .put (configMapPath inNamespace c.name) (some c.toJson) >>= ·)
    (funext fun r => ?_)
  simp only [Question.understand]
  cases Kube.readBody ConfigMap.ofJson r <;> rfl

theorem remoteAnswer_eq (inNamespace : String) (q : Question) :
    remoteAnswer inNamespace q =
      match Kube.sentPath? (configMapPath inNamespace q.name) with
      | none => .done (q.understand (.error .unsendable))
      | some path => .ask { q.request inNamespace with path } fun reply =>
          .done (q.understand (Kube.judge reply)) := by
  cases q with
  | get name =>
    rw [remoteAnswer_get]
    simp only [Kube.send, Question.name]
    cases Kube.sentPath? (configMapPath inNamespace name) <;> rfl
  | replace c =>
    rw [remoteAnswer_replace]
    simp only [Kube.send, Question.name]
    cases Kube.sentPath? (configMapPath inNamespace c.name) <;> rfl

theorem toList_configMapPath (inNamespace name : String) :
    (configMapPath inNamespace name).toList =
      "/api/v1/namespaces/".toList ++ (inNamespace.toList ++ '/' :: ("configmaps/".toList ++
        name.toList)) := by
  have hpath : configMapPath inNamespace name =
      "/api/v1/namespaces/" ++ inNamespace ++ "/" ++ "configmaps" ++ "/" ++ name := rfl
  rw [hpath]
  simp only [String.toList_append, List.append_assoc]
  rfl

theorem eq_of_append_slash {as bs cs ds : List Char} (has : '/' ∉ as) (hbs : '/' ∉ bs)
    (h : as ++ '/' :: cs = bs ++ '/' :: ds) : as = bs ∧ cs = ds := by
  induction as generalizing bs with
  | nil =>
    cases bs with
    | nil => exact ⟨rfl, (List.cons.inj h).2⟩
    | cons b bs => exact absurd ((List.cons.inj h).1 ▸ List.mem_cons_self) hbs
  | cons a as ih =>
    cases bs with
    | nil => exact absurd ((List.cons.inj h).1 ▸ List.mem_cons_self) has
    | cons b bs =>
      obtain ⟨rfl, htail⟩ := List.cons.inj h
      obtain ⟨rfl, hrest⟩ := ih (fun hmem => has (List.mem_cons_of_mem a hmem))
        (fun hmem => hbs (List.mem_cons_of_mem a hmem)) htail
      exact ⟨rfl, hrest⟩

/-- A path leads to one configmap, as no namespace has a slash. -/
theorem configMapPath_injective {ns ns' n n' : String} (hns : '/' ∉ ns.toList)
    (hns' : '/' ∉ ns'.toList) (h : configMapPath ns n = configMapPath ns' n') :
    ns = ns' ∧ n = n' := by
  have hlist := congrArg String.toList h
  rw [toList_configMapPath, toList_configMapPath] at hlist
  obtain ⟨hnamespace, hrest⟩ := eq_of_append_slash hns hns' (List.append_cancel_left hlist)
  exact ⟨String.toList_inj.mp hnamespace, String.toList_inj.mp (List.append_cancel_left hrest)⟩

/-! ### What is understood -/

theorem refusalOf?_eq {j : Json} {r : Refusal} (h : Kube.refusalOf? j = some r) :
    ∃ code reason message, r = .refused code reason message := by
  simp only [Kube.refusalOf?, Option.bind_eq_bind, Option.bind_eq_some_iff] at h
  obtain ⟨_, -, _, -, _, -, _, -, code, -, reason, -, message, -, h⟩ := h
  cases h
  exact ⟨code, reason, message, rfl⟩

theorem judge_refused {status : Nat} {body : Option Json} (h : Kube.refuses status = true)
    (hbody : Explains status body) :
    ∃ reason message,
      Kube.judge (.answer status body) = .error (.refused status reason message) := by
  simp only [Kube.judge, if_pos h]
  cases hr : body.bind Kube.refusalOf? with
  | none => exact ⟨_, _, rfl⟩
  | some r =>
    obtain ⟨j, rfl, hj⟩ := Option.bind_eq_some_iff.mp hr
    obtain ⟨code, reason, message, rfl⟩ := refusalOf?_eq hj
    obtain rfl := hbody code reason message hr
    exact ⟨reason, message, rfl⟩

theorem understand_missing (q : Question) {said : Option Json} (hsaid : Explains 404 said) :
    q.understand (Kube.judge (.answer 404 said)) =
      .error (.ofKind (.registryNotFound q.name)) := by
  obtain ⟨reason, message, hjudge⟩ := judge_refused (by decide) hsaid
  rw [hjudge]
  cases q <;> rfl

theorem understand_stale (c : ConfigMap) {said : Option Json} (hsaid : Explains 409 said) :
    Question.understand (.replace c) (Kube.judge (.answer 409 said)) =
      .error (.ofKind (.conflict c.name)) := by
  obtain ⟨reason, message, hjudge⟩ := judge_refused (by decide) hsaid
  rw [hjudge]
  rfl

theorem understand_object (q : Question) {status : Nat} {j : Json}
    (hstatus : Kube.refuses status = false) (hj : ConfigMap.ofJson j = some c) :
    q.understand (Kube.judge (.answer status (some j))) = .ok c := by
  cases q <;> simp [Kube.judge, hstatus, Question.understand, Kube.readBody, hj]

theorem understand_fails (q : Question) (h : Fails q.method reply) :
    ∃ text, q.understand (Kube.judge reply) = .error (.ofKind (.cluster text)) := by
  cases h with
  | broken text => exact ⟨text, by cases q <;> rfl⟩
  | @refused status body h hmissing hstale hbody =>
    obtain ⟨reason, message, hjudge⟩ := judge_refused h hbody
    refine ⟨(Refusal.refused status reason message).text, ?_⟩
    rw [hjudge]
    cases q with
    | get name =>
      show Except.error (lookupFault name (.refused status reason message)) = _
      unfold lookupFault
      split
      · rename_i heq
        cases heq
        exact absurd rfl hmissing
      · rfl
    | replace c =>
      show Except.error (replacementFault c.name (.refused status reason message)) = _
      unfold replacementFault
      split
      · rename_i heq
        cases heq
        exact absurd rfl hmissing
      · rename_i heq
        cases heq
        exact absurd rfl (hstale rfl)
      · rfl
  | @unreadable status body h hbody =>
    refine ⟨Refusal.unreadable.text, ?_⟩
    have hjudge : Kube.judge (.answer status body) = .ok body := by simp [Kube.judge, h]
    have hread : Kube.readBody ConfigMap.ofJson (.ok body) = .error .unreadable := by
      simp [Kube.readBody, hbody]
    rw [hjudge]
    cases q <;> simp only [Question.understand, hread] <;> rfl

/-! ### The two kinds of answers agree -/

theorem shelf_keep (s : Server) (inNamespace name : String) (c : ConfigMap) (version : String) :
    (s.keep inNamespace name c version).shelf inNamespace =
      (s.shelf inNamespace).keep name c version := by
  simp [Server.keep, Server.shelf, Shelf.keep]

theorem kept_keep_of_ne {ns : String} (h : ns ≠ inNamespace) (s : Server) (name : String)
    (c : ConfigMap) (version : String) :
    (s.keep inNamespace name c version).kept ns = s.kept ns :=
  Function.update_of_ne h _ _

theorem method_request (inNamespace : String) (q : Question) :
    (q.request inNamespace).method = q.method := by
  cases q <;> rfl

theorem path_request (inNamespace : String) (q : Question) :
    (q.request inNamespace).path = configMapPath inNamespace q.name := by
  cases q <;> rfl

/-- The only calls that ask for a replacement are those that bring its configmap along. -/
theorem serves_of_accepts {body : Json} {version : String}
    (hq : q.IsFor name (ConfigMap.IsEntry name))
    (hrequest : q.request inNamespace =
      { method := .put, path := configMapPath inNamespace q.name, body := some body })
    (h : s.Accepts inNamespace q.name body c d version) :
    q = .replace c ∧ Shelf.Serves (.replace c) (s.shelf inNamespace) (.ok (c.withVersion version))
      ((s.keep inNamespace c.name c version).shelf inNamespace) := by
  cases q with
  | get n => cases hrequest
  | replace e =>
    have hbody := h.body
    obtain rfl := Option.some.inj (congrArg Request.body hrequest)
    rw [ConfigMap.ofJson_toJson (ConfigMap.IsEntry.regular hq)] at hbody
    obtain rfl := Option.some.inj hbody
    rw [shelf_keep]
    exact ⟨rfl, .replaced h.kept h.upToDate h.fresh⟩

theorem accepts_toJson {version : String} (hc : c.IsEntry name)
    (h : s.kept inNamespace c.name = some d)
    (hversion : c.metadata.resourceVersion = d.metadata.resourceVersion)
    (hnew : version ∉ s.versions) : s.Accepts inNamespace c.name c.toJson c d version where
  kept := h
  body := ConfigMap.ofJson_toJson hc.regular
  name := hc.name.trans (congrArg some (Question.IsFor.name_eq (q := .replace c) hc).symm)
  upToDate := hversion
  fresh := hnew

/-- A request is answered as the call to the store that it was sent for, and nothing changes outside
the namespace. -/
theorem Reacts.answers (hs : s.IsSound) (hnamespace : '/' ∉ inNamespace.toList)
    (hq : q.IsFor name (ConfigMap.IsEntry name))
    (h : Server.Reacts (q.request inNamespace) s reply s') :
    (s.shelf inNamespace).Answers q (q.understand (Kube.judge reply)) (s'.shelf inNamespace) ∧
      ∀ ns, ns ≠ inNamespace → s'.kept ns = s.kept ns := by
  generalize hrequest : q.request inNamespace = request at h
  have hpath := path_request inNamespace q
  rw [hrequest] at hpath
  cases h with
  | failed h =>
    rw [← hrequest, method_request] at h
    exact ⟨Or.inr ⟨understand_fails q h, Or.inl rfl⟩, fun _ _ => rfl⟩
  | found h hstatus hj =>
    obtain ⟨rfl, rfl⟩ := configMapPath_injective (hs.path _ _ _ h).1 hnamespace hpath
    rw [understand_object q hstatus hj]
    cases q with
    | get n => exact ⟨Or.inl (.found h), fun _ _ => rfl⟩
    | replace c => cases hrequest
  | missing hns hn h hsaid =>
    obtain ⟨rfl, rfl⟩ := configMapPath_injective hns hnamespace hpath
    rw [understand_missing q hsaid]
    cases q with
    | get n => exact ⟨Or.inl (.missing h), fun _ _ => rfl⟩
    | replace c => exact ⟨Or.inl (.gone h), fun _ _ => rfl⟩
  | stale h hbody hversion hsaid =>
    obtain ⟨rfl, rfl⟩ := configMapPath_injective (hs.path _ _ _ h).1 hnamespace hpath
    cases q with
    | get n => cases hrequest
    | replace c =>
      obtain rfl := Option.some.inj (congrArg Request.body hrequest)
      rw [ConfigMap.ofJson_toJson (ConfigMap.IsEntry.regular hq)] at hbody
      obtain rfl := Option.some.inj hbody
      rw [understand_stale c hsaid]
      exact ⟨Or.inl (.stale h hversion), fun _ _ => rfl⟩
  | replaced h hstatus hj =>
    obtain ⟨rfl, rfl⟩ := configMapPath_injective (hs.path _ _ _ h.kept).1 hnamespace hpath
    obtain ⟨rfl, hserves⟩ := serves_of_accepts hq hrequest h
    rw [understand_object _ hstatus hj]
    exact ⟨Or.inl hserves, fun ns hne => kept_keep_of_ne hne s _ _ _⟩
  | lost h hreply =>
    obtain ⟨rfl, rfl⟩ := configMapPath_injective (hs.path _ _ _ h.kept).1 hnamespace hpath
    obtain ⟨rfl, hserves⟩ := serves_of_accepts hq hrequest h
    exact ⟨Or.inr ⟨understand_fails (.replace _) hreply, Or.inr ⟨_, hserves⟩⟩,
      fun ns hne => kept_keep_of_ne hne s _ _ _⟩

/-- Whatever the store may answer, the API may. -/
theorem Answers.exists_reacts (hs : s.IsSound) (hnamespace : '/' ∉ inNamespace.toList)
    (hname : name ≠ "") (hq : q.IsFor name (ConfigMap.IsEntry name))
    (h : (s.shelf inNamespace).Answers q x t') :
    ∃ reply s', Server.Reacts (q.request inNamespace) s reply s' ∧
      q.understand (Kube.judge reply) = x ∧ s'.shelf inNamespace = t' := by
  have hsilent : ∀ status, Explains status none := fun _ _ _ _ h => by cases h
  have hqname : q.name ≠ "" := hq.name_eq ▸ hname
  rcases h with h | ⟨⟨text, rfl⟩, h⟩
  · cases h with
    | @found _ n c h =>
      have hj := ConfigMap.ofJson_toJson (hs.entry _ _ _ h).regular
      exact ⟨.answer 200 (some c.toJson), s, .found h (by decide) hj,
        understand_object _ (by decide) hj, rfl⟩
    | @missing _ n h =>
      exact ⟨.answer 404 none, s, .missing hnamespace hqname h (hsilent 404),
        understand_missing _ (hsilent 404), rfl⟩
    | @gone _ c h =>
      exact ⟨.answer 404 none, s, .missing hnamespace hqname h (hsilent 404),
        understand_missing _ (hsilent 404), rfl⟩
    | @stale _ c d h hversion =>
      have hbody := ConfigMap.ofJson_toJson (ConfigMap.IsEntry.regular hq)
      exact ⟨.answer 409 none, s, .stale h hbody hversion (hsilent 409),
        understand_stale c (hsilent 409), rfl⟩
    | @replaced _ c d version h hversion hnew =>
      have hj := ConfigMap.ofJson_toJson ((ConfigMap.IsEntry.regular hq).withVersion version)
      exact ⟨.answer 200 (some (c.withVersion version).toJson), s.keep inNamespace c.name c version,
        .replaced (accepts_toJson hq h hversion hnew) (by decide) hj,
        understand_object _ (by decide) hj, shelf_keep s inNamespace c.name c version⟩
  · have hbroken : q.understand (Kube.judge (.broken text)) = .error (.ofKind (.cluster text)) := by
      cases q <;> rfl
    rcases h with rfl | ⟨y, h⟩
    · exact ⟨.broken text, s, .failed (.broken text), hbroken, rfl⟩
    · cases h with
      | @replaced _ c d version h hversion hnew =>
        exact ⟨.broken text, s.keep inNamespace c.name c version,
          .lost (accepts_toJson hq h hversion hnew) (.broken text), hbroken,
          shelf_keep s inNamespace c.name c version⟩
      | _ => exact ⟨.broken text, s, .failed (.broken text), hbroken, rfl⟩

/-! ### What stays true -/

theorem Server.isSound_empty : Server.empty.IsSound where
  entry _ _ _ h := nomatch h
  path _ _ _ h := nomatch h
  version _ _ _ h := nomatch h

theorem Server.kept_keep (s : Server) (inNamespace name : String) (c : ConfigMap)
    (version : String) :
    (s.keep inNamespace name c version).kept inNamespace name = some (c.withVersion version) := by
  simp [Server.keep]

/-- Only the configmap that is kept is new; it has its name and the new version. -/
theorem Server.IsSound.keep (hs : s.IsSound) (hnamespace : '/' ∉ inNamespace.toList)
    (hname : name ≠ "") (hc : c.IsEntry name) (version : String) :
    (s.keep inNamespace name c version).IsSound := by
  have hkept : ∀ ns n e, (s.keep inNamespace name c version).kept ns n = some e →
      (ns = inNamespace ∧ n = name ∧ e = c.withVersion version) ∨ s.kept ns n = some e := by
    intro ns n e hkept
    by_cases hns : ns = inNamespace
    · subst hns
      by_cases hn : n = name
      · subst hn
        have hself : some (c.withVersion version) = some e := by
          simpa [Server.keep] using hkept
        exact Or.inl ⟨rfl, rfl, (Option.some.inj hself).symm⟩
      · exact Or.inr (by simpa [Server.keep, hn] using hkept)
    · exact Or.inr (by simpa [Server.keep, hns] using hkept)
  refine ⟨fun ns n e he => ?_, fun ns n e he => ?_, fun ns n e he => ?_⟩
  · rcases hkept ns n e he with ⟨rfl, rfl, rfl⟩ | he
    · exact hc.withVersion version
    · exact hs.entry ns n e he
  · rcases hkept ns n e he with ⟨rfl, rfl, rfl⟩ | he
    · exact ⟨hnamespace, hname⟩
    · exact hs.path ns n e he
  · rcases hkept ns n e he with ⟨rfl, rfl, rfl⟩ | he
    · exact ⟨version, Set.mem_insert version s.versions, rfl⟩
    · obtain ⟨v, hv, hversion⟩ := hs.version ns n e he
      exact ⟨v, Set.mem_insert_of_mem version hv, hversion⟩

theorem Server.Accepts.isSound_keep {body : Json} {version : String} (hs : s.IsSound)
    (h : s.Accepts inNamespace name body c d version) :
    (s.keep inNamespace name c version).IsSound :=
  hs.keep (hs.path _ _ _ h.kept).1 (hs.path _ _ _ h.kept).2
    ⟨ConfigMap.isRegular_of_ofJson h.body, h.name⟩ version

theorem Reacts.isSound {request : Request} (hs : s.IsSound)
    (h : Server.Reacts request s reply s') : s'.IsSound := by
  cases h with
  | replaced h _ _ => exact h.isSound_keep hs
  | lost h _ => exact h.isSound_keep hs
  | _ => exact hs

end RingKeeper.Registry
