import RingKeeper.Proofs.Interleaving
import RingKeeper.Proofs.Registry.Replies

/-!
# The registry in the cluster is the registry over a store

Clients call their registries side by side. `RefinesShelf` says that whatever happens to them over
the API of the cluster may as well happen to them over a shelf: the same clients get the same
results in the same order, and the same configmaps are left after each step.

1. `Simulates` relates the clients over the API to those over the shelf, and holds of what they rely
   on. A step of the ones is a step of the others (`Simulates.step` and `Simulates.step_back`).
2. `api_refines_shelf` and `shelf_runs_on_api` say so of whole runs. Paths must not be cut off on
   their way (`not_refines_fragment`).
-/

namespace RingKeeper.Registry

open Plan (World)

/-! ## Calls to the store over the API -/

/-- The API answers a call to the store. This takes one request at most, so that nobody comes in
between. -/
def Server.Answers (inNamespace : String) (q : Question) (s : Server) (x : Answer q) (s' : Server) :
    Prop :=
  Plan.Runs Server.Reacts (remoteAnswer inNamespace q) s x s'

/-- Requests for the registry go to its path, if they can be sent at all. -/
def IsReached (inNamespace : String) (r : Registry) : Prop :=
  ∀ path, Kube.sentPath? (configMapPath inNamespace r.name) = some path →
    path = configMapPath inNamespace r.name

section
variable {inNamespace : String} {r : Registry} {q : Question} {x : Answer q} {s s' : Server}
  {t' : Shelf}

theorem request_with_path (inNamespace : String) (q : Question) :
    { q.request inNamespace with path := configMapPath inNamespace q.name } =
      q.request inNamespace := by
  cases q <;> rfl

theorem Server.Answers.shelf (hs : s.IsSound) (hnamespace : '/' ∉ inNamespace.toList)
    (hr : r.IsReached inNamespace) (hq : q.IsFor r.name (ConfigMap.IsEntry r.name))
    (h : Server.Answers inNamespace q s x s') :
    (s.shelf inNamespace).Answers q x (s'.shelf inNamespace) ∧ s'.IsSound ∧
      ∀ ns, ns ≠ inNamespace → s'.kept ns = s.kept ns := by
  rcases runs_remoteAnswer h with ⟨-, rfl, hx⟩ | ⟨path, reply, hpath, hreacts, rfl⟩
  · exact ⟨Or.inr ⟨hx, Or.inl rfl⟩, hs, fun _ _ => rfl⟩
  · rw [hq.name_eq] at hpath
    obtain rfl := hr path hpath
    rw [← hq.name_eq, request_with_path] at hreacts
    obtain ⟨hanswers, hothers⟩ := Reacts.answers hs hnamespace hq hreacts
    exact ⟨hanswers, Reacts.isSound hs hreacts, hothers⟩

theorem Shelf.Answers.server (hs : s.IsSound) (hnamespace : '/' ∉ inNamespace.toList)
    (hname : r.name ≠ "") (hsent : Kube.sentPath? (configMapPath inNamespace r.name) =
      some (configMapPath inNamespace r.name))
    (hq : q.IsFor r.name (ConfigMap.IsEntry r.name))
    (h : (s.shelf inNamespace).Answers q x t') :
    ∃ s', Server.Answers inNamespace q s x s' ∧ s'.shelf inNamespace = t' := by
  obtain ⟨reply, s', hreacts, hx, ht⟩ := Answers.exists_reacts hs hnamespace hname hq h
  refine ⟨s', ?_, ht⟩
  unfold Server.Answers
  rw [remoteAnswer_eq, hq.name_eq, hsent, ← hq.name_eq]
  exact .ask (request_with_path inNamespace q ▸ hreacts) (hx ▸ .done _ s')

end

/-! ## Clients -/

section
variable {α ι : Type}

/-- The same is left of the clients, or they have come to the same results, and the same configmaps
are kept for them. Other namespaces are as they were. -/
structure Agrees (inNamespace : String) (s₀ : Server) (w : World Server Answer α ι)
    (v : World Shelf Answer α ι) : Prop where
  left : w.left = v.left
  shelf : w.state.shelf inNamespace = v.state
  others : ∀ ns, ns ≠ inNamespace → w.state.kept ns = s₀.kept ns

variable [DecidableEq ι]

/-- Clients of these registries cannot tell the API from a shelf. -/
def RefinesShelf (inNamespace : String) (r : ι → Registry) : Prop :=
  ∀ (α : Type) (clients : ι → Client α) (s : Server), s.IsSound →
    ∀ ws, World.IsRun (Server.Answers inNamespace) ⟨s, fun i => (clients i).over (r i)⟩ ws →
    ∃ vs, World.IsRun Shelf.Answers ⟨s.shelf inNamespace, fun i => (clients i).over (r i)⟩ vs ∧
      List.Forall₂ (Agrees inNamespace s) ws vs

/-! ## The simulation -/

/-- Clients that are handed entries replace them by entries. -/
def entryContract (r : Registry) : Contract r where
  entry := ConfigMap.IsEntry r.name
  fault _ := True
  lockFor _ holder hc := ⟨hc.regular.lockFor holder, hc.name⟩
  recordAddress _ pod address hc := ⟨hc.regular.recordAddress pod address, hc.name⟩
  lockHeld _ := trivial
  conflict _ _ _ _ := trivial

/-- The clients agree, and what they rely on is given. -/
structure Simulates (inNamespace : String) (r : ι → Registry) (s₀ : Server)
    (w : World Server Answer α ι) (v : World Shelf Answer α ι) : Prop
    extends Agrees inNamespace s₀ w v where
  sound : w.state.IsSound
  keeps : ∀ i, (entryContract (r i)).Ensures (fun _ => True) (w.left i)

variable {inNamespace : String} {r : ι → Registry} {s₀ : Server} {w w' : World Server Answer α ι}
  {v v' : World Shelf Answer α ι}

omit [DecidableEq ι] in
theorem simulates_start (inNamespace : String) (r : ι → Registry) {s : Server} (hs : s.IsSound)
    (clients : ι → Client α) :
    Simulates inNamespace r s ⟨s, fun i => (clients i).over (r i)⟩
      ⟨s.shelf inNamespace, fun i => (clients i).over (r i)⟩ where
  left := rfl
  shelf := rfl
  others _ _ := rfl
  sound := hs
  keeps i := (entryContract (r i)).ensures_over (clients i)

/-- After an answer the clients go on as they have to. -/
theorem Simulates.keeps_update (h : Simulates inNamespace r s₀ w v) {i : ι} {q : Question}
    {next : Answer q → Procedure α} {x : Answer q} {t' : Shelf} (hask : w.left i = .ask q next)
    (hx : (w.state.shelf inNamespace).Answers q x t') (j : ι) :
    (entryContract (r j)).Ensures (fun _ => True) (Function.update w.left i (next x) j) := by
  by_cases hj : j = i
  · subst hj
    have hkeeps := h.keeps j
    rw [hask] at hkeeps
    rw [Function.update_self]
    refine hkeeps.2 x ?_
    cases x with
    | error f => trivial
    | ok c => exact hx.isEntry (h.sound.entry inNamespace) hkeeps.1
  · rw [Function.update_of_ne hj]
    exact h.keeps j

theorem Simulates.update (h : Simulates inNamespace r s₀ w v) {i : ι} {q : Question}
    {next : Answer q → Procedure α} {x : Answer q} {s' : Server} (hask : w.left i = .ask q next)
    (hx : (w.state.shelf inNamespace).Answers q x (s'.shelf inNamespace)) (hs' : s'.IsSound)
    (hothers : ∀ ns, ns ≠ inNamespace → s'.kept ns = w.state.kept ns) :
    Simulates inNamespace r s₀ ⟨s', Function.update w.left i (next x)⟩
      ⟨s'.shelf inNamespace, Function.update v.left i (next x)⟩ where
  left := by rw [h.left]
  shelf := rfl
  others ns hns := (hothers ns hns).trans (h.others ns hns)
  sound := hs'
  keeps := h.keeps_update hask hx

theorem Simulates.step (hnamespace : '/' ∉ inNamespace.toList)
    (hr : ∀ i, (r i).IsReached inNamespace) (h : Simulates inNamespace r s₀ w v)
    (hstep : World.Step (Server.Answers inNamespace) w w') :
    ∃ v', World.Step Shelf.Answers v v' ∧ Simulates inNamespace r s₀ w' v' := by
  obtain ⟨i, q, next, x, s', hask, hanswers, rfl⟩ := hstep
  have hq := h.keeps i
  rw [hask] at hq
  obtain ⟨hx, hs', hothers⟩ := hanswers.shelf h.sound hnamespace (hr i) hq.1
  refine ⟨⟨s'.shelf inNamespace, Function.update v.left i (next x)⟩, ?_, ?_⟩
  · exact ⟨i, q, next, x, _, h.left ▸ hask, h.shelf ▸ hx, rfl⟩
  · exact h.update hask hx hs' hothers

/-- The API has a reply for whatever a shelf does next. -/
theorem Simulates.step_back (hnamespace : '/' ∉ inNamespace.toList)
    (hr : ∀ i, (r i).name ≠ "" ∧ Kube.sentPath? (configMapPath inNamespace (r i).name) =
      some (configMapPath inNamespace (r i).name))
    (h : Simulates inNamespace r s₀ w v) (hstep : World.Step Shelf.Answers v v') :
    ∃ w', World.Step (Server.Answers inNamespace) w w' ∧ Simulates inNamespace r s₀ w' v' := by
  obtain ⟨i, q, next, x, t', hask, hx, rfl⟩ := hstep
  rw [← h.left] at hask
  rw [← h.shelf] at hx
  have hq := h.keeps i
  rw [hask] at hq
  obtain ⟨s', hanswers, rfl⟩ := hx.server h.sound hnamespace (hr i).1 (hr i).2 hq.1
  have hreached : (r i).IsReached inNamespace := fun path hpath =>
    (Option.some.inj ((hr i).2.symm.trans hpath)).symm
  obtain ⟨-, hs', hothers⟩ := hanswers.shelf h.sound hnamespace hreached hq.1
  refine ⟨⟨s', Function.update w.left i (next x)⟩, ?_, ?_⟩
  · exact ⟨i, q, next, x, s', hask, hanswers, rfl⟩
  · exact h.update hask hx hs' hothers

/-! ## Whole runs -/

/-- Over the API of the cluster, the clients of registries see what they would see over a shelf, and
leave behind what they would leave there. The faults of a registry tell of replies of their own. -/
theorem api_refines_shelf (hnamespace : '/' ∉ inNamespace.toList)
    (hr : ∀ i, (r i).IsReached inNamespace) :
    RefinesShelf inNamespace r ∧ ∀ i, TellsApart inNamespace (r i) := by
  refine ⟨fun α clients s hs ws hws => ?_, fun i => tellsApart inNamespace (r i)⟩
  obtain ⟨vs, hvs, hall⟩ := World.exists_run_of_simulates
    (Simulates.step hnamespace hr) (simulates_start inNamespace r hs clients) hws
  exact ⟨vs, hvs, hall.imp fun _ _ h => h.toAgrees⟩

theorem api_refines_shelf_two :
    ('/' ∉ "ring".toList ∧
      ∀ i, IsReached "ring" (cond i ⟨"cassandra-topology"⟩ ⟨"spare topology"⟩)) ∧
    RefinesShelf "ring" (fun i => cond i ⟨"cassandra-topology"⟩ ⟨"spare topology"⟩) ∧
    ∀ i, TellsApart "ring" (cond i ⟨"cassandra-topology"⟩ ⟨"spare topology"⟩) := by
  have hnamespace : '/' ∉ "ring".toList := by decide
  have hr : ∀ i, IsReached "ring" (cond i ⟨"cassandra-topology"⟩ ⟨"spare topology"⟩) := by
    intro i path hpath
    cases i with
    | true =>
      have hsent : Kube.sentPath? (configMapPath "ring" "cassandra-topology") =
        some (configMapPath "ring" "cassandra-topology") := by decide
      exact (Option.some.inj (hsent.symm.trans hpath)).symm
    | false =>
      have hunsendable : Kube.sentPath? (configMapPath "ring" "spare topology") = none := by
        decide
      cases hunsendable.symm.trans hpath
  exact ⟨⟨hnamespace, hr⟩, api_refines_shelf hnamespace hr⟩

/-- The configmap that a path leads to which is cut off behind its name. -/
def shortEntry : ConfigMap := { metadata := { name := some "t" } }

/-- A path that is cut off leads to another configmap, which the API hands out for the registry. -/
theorem not_refines_fragment : ("t#u" ≠ "" ∧ '/' ∉ "n".toList) ∧
    ¬ RefinesShelf "n" (fun _ : Unit => ⟨"t#u"⟩) := by
  refine ⟨by decide, fun h => ?_⟩
  have hentry : shortEntry.IsEntry "t" := ⟨⟨⟨nofun, nofun, rfl⟩, nofun, rfl⟩, rfl⟩
  have hs : (Server.empty.keep "n" "t" shortEntry "1").IsSound :=
    Server.isSound_empty.keep (by decide) (by decide) hentry "1"
  have hkept := Server.empty.kept_keep "n" "t" shortEntry "1"
  -- The client looks its registry up once, and is handed the configmap of the shorter name.
  have hstep : Server.Answers "n" (.get "t#u") (Server.empty.keep "n" "t" shortEntry "1")
      (.ok (shortEntry.withVersion "1")) (Server.empty.keep "n" "t" shortEntry "1") := by
    have hcut : Kube.sentPath? (configMapPath "n" "t#u") = some (configMapPath "n" "t") := by decide
    have hj := ConfigMap.ofJson_toJson (hs.entry "n" "t" _ hkept).regular
    have hanswered : Kube.refuses 200 = false := by decide
    unfold Server.Answers
    rw [remoteAnswer_eq, Question.name, hcut]
    exact .ask (.found hkept hanswered hj)
      (understand_object (.get "t#u") hanswered hj ▸ .done _ _)
  obtain ⟨vs, hvs, hall⟩ := h Rehearsal.Outcome (fun _ => Plan.request .get) _ hs [_]
    (List.isChain_cons_cons.mpr ⟨⟨(), _, _, _, _, rfl, hstep, rfl⟩, .singleton _⟩)
  cases hall with
  | cons hagrees hnil =>
    cases hnil
    obtain ⟨i, q, next, x, t', hask, hx, rfl⟩ := (List.isChain_cons_cons.mp hvs).1
    have hask : Plan.ask (.get "t#u") (fun x => .done (.configMap x)) = .ask q next := hask
    cases hask
    have hleft := congrFun hagrees.left ()
    dsimp only at hleft
    rw [Function.update_self, Function.update_self] at hleft
    cases hleft
    have hq : Question.IsFor "t#u" (ConfigMap.IsEntry "t#u") (.get "t#u") := rfl
    exact absurd (hx.isEntry (hs.entry "n") hq).name (by decide)

/-- Nothing happens to clients over a shelf that may not happen over the API, if the paths of their
registries can be sent. -/
theorem shelf_runs_on_api (hnamespace : '/' ∉ inNamespace.toList)
    (hr : ∀ i, (r i).name ≠ "" ∧ Kube.sentPath? (configMapPath inNamespace (r i).name) =
      some (configMapPath inNamespace (r i).name)) {s : Server} (hs : s.IsSound)
    (clients : ι → Client α) {vs : List (World Shelf Answer α ι)}
    (hvs : World.IsRun Shelf.Answers ⟨s.shelf inNamespace, fun i => (clients i).over (r i)⟩ vs) :
    ∃ ws, World.IsRun (Server.Answers inNamespace) ⟨s, fun i => (clients i).over (r i)⟩ ws ∧
      List.Forall₂ (Agrees inNamespace s) ws vs := by
  obtain ⟨ws, hws, hall⟩ := World.exists_run_of_simulates
    (R := fun v w => Simulates inNamespace r s w v)
    (Simulates.step_back hnamespace hr) (simulates_start inNamespace r hs clients) hvs
  exact ⟨ws, hws, hall.flip.imp fun _ _ h => h.toAgrees⟩

end

end RingKeeper.Registry
