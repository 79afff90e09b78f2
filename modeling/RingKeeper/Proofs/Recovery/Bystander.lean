import RingKeeper.Proofs.Kube.Volume
import RingKeeper.Proofs.Recovery.CleanStart
import RingKeeper.Proofs.Recovery.Requests

/-!
# A cluster with a bystander

Somebody else may delete objects of the cluster between any two calls of the recovery. Nothing else
goes wrong: each request is answered, and what it asks for is done if it can be.

1. A `Scene` is a cluster, with all that was sent and removed. `Cluster.Serves` is how the API
   answers a request, in documents and codes, and `Scene.Reacts` what may happen before it does.
2. `Cluster.IsSound` says that objects are kept under their own names, that the names in them can be
   sent, and that they can be told in documents.
3. `Calls` says of a call of the recovery what `Scene.Reacts` says of its request. `calls_of_runs`
   leads from the one to the other, and `Complies.calls` and `Complies.exists_run` do so for
   procedures that send no others than sendable names.
-/

namespace RingKeeper

/-! ## Objects that are kept -/

/-- The pod may be kept under this name. -/
structure Pod.IsEntry (pod : Pod) (inNamespace name : String) : Prop where
  inNamespace : pod.metadata.namespaceOrEmpty = inNamespace
  name : pod.metadata.nameOrEmpty = name
  claims : ∀ claim ∈ pod.mountedClaims, Recovery.IsName claim
  told : ∃ j, Pod.ofJson j = some pod

/-- The claim may be kept under this name. -/
structure Claim.IsEntry (claim : Claim) (name : String) : Prop where
  name : claim.metadata.nameOrEmpty = name
  volume : ∀ volume, claim.volume? = some volume → Recovery.IsName volume
  told : ∃ j, Claim.ofJson j = some claim

/-- The volume may be kept under this name. -/
structure Volume.IsEntry (v : Volume) (name : String) : Prop where
  name : v.name = name
  host : ∀ host, v.requiredHost? = some host → Recovery.IsName host
  regular : v.IsRegular

theorem Volume.requiredHost?_unclaimed (v : Volume) :
    v.unclaimed.requiredHost? = v.requiredHost? := by
  unfold requiredHost? unclaimed
  cases v.spec <;> rfl

theorem Volume.IsEntry.unclaimed {v : Volume} {name : String} (h : v.IsEntry name) :
    v.unclaimed.IsEntry name :=
  ⟨h.name, fun host hhost => h.host host (v.requiredHost?_unclaimed ▸ hhost), h.regular.unclaimed⟩

theorem Volume.IsEntry.withVersion {v : Volume} {name : String} (h : v.IsEntry name)
    (version : String) : (v.withVersion version).IsEntry name :=
  ⟨h.name, h.host, h.regular.withVersion version⟩

namespace Recovery

open Kube (Method Reply Request)
open Plan (Ensures Runs)

namespace Cluster

/-- Every object is one that may be kept under its name. -/
structure IsSound (c : Cluster) : Prop where
  pods : ∀ inNamespace name pod, c.pods.get? (inNamespace, name) = some pod →
    pod.IsEntry inNamespace name
  claims : ∀ inNamespace name claim, c.claims.get? (inNamespace, name) = some claim →
    claim.IsEntry name
  volumes : ∀ name v, c.volumes.get? name = some v → v.IsEntry name
  hosts : ∀ name h, c.hosts.get? name = some h → ∃ j, Host.ofJson j = some h

/-- There is such an object. -/
def Holds (c : Cluster) : Target → Prop
  | .pod inNamespace name => c.pods.get? (inNamespace, name) ≠ none
  | .claim inNamespace name => c.claims.get? (inNamespace, name) ≠ none
  | .volume name => c.volumes.get? name ≠ none
  | .host name => c.hosts.get? name ≠ none

/-- The cluster after the object was deleted. -/
def without (c : Cluster) : Target → Cluster
  | .pod inNamespace name => { c with pods := c.pods.erase (inNamespace, name) }
  | .claim inNamespace name => { c with claims := c.claims.erase (inNamespace, name) }
  | .volume name => { c with volumes := c.volumes.erase name }
  | .host name => { c with hosts := c.hosts.erase name }

/-- The document is read as the object. -/
inductive Shows (c : Cluster) : Target → Json → Prop where
  | pod {inNamespace name : String} {pod : Pod} {j : Json}
    (h : c.pods.get? (inNamespace, name) = some pod) (hj : Pod.ofJson j = some pod) :
    Shows c (.pod inNamespace name) j
  | claim {inNamespace name : String} {claim : Claim} {j : Json}
    (h : c.claims.get? (inNamespace, name) = some claim) (hj : Claim.ofJson j = some claim) :
    Shows c (.claim inNamespace name) j
  | volume {name : String} {v : Volume} {j : Json} (h : c.volumes.get? name = some v)
    (hj : Volume.ofJson j = some v) : Shows c (.volume name) j
  | host {name : String} {host : Host} {j : Json} (h : c.hosts.get? name = some host)
    (hj : Host.ofJson j = some host) : Shows c (.host name) j

end Cluster

/-! ## The API -/

/-- The document may answer a deletion of the object. -/
def Target.readDeleted : Target → Json → Option Unit
  | pod .. => Kube.readDeleted Pod.ofJson
  | claim .. => Kube.readDeleted Claim.ofJson
  | volume _ => Kube.readDeleted Volume.ofJson
  | host _ => Kube.readDeleted Host.ofJson

namespace Cluster

/-- How the API may answer a request that is about this object, and what becomes of the cluster. A
volume is replaced only in the version that is kept. -/
inductive Serves (c : Cluster) : Target → Method → Option Json → Reply → Cluster → Prop where
  | found {t : Target} {status : Nat} {j : Json} (hstatus : Kube.refuses status = false)
    (hj : c.Shows t j) : Serves c t .get none (.answer status (some j)) c
  | absent {t : Target} {said : Option Json} {message : String} (hgone : ¬ c.Holds t)
    (hsaid : said.bind Kube.refusalOf? = some (.refused 404 Kube.notFound message)) :
    Serves c t .get none (.answer 404 said) c
  | replaced {name version : String} {v kept : Volume} {status : Nat} {body j : Json}
    (hkept : c.volumes.get? name = some kept) (hbody : Volume.ofJson body = some v)
    (hname : v.name = name)
    (hversion : v.metadata.resourceVersion = kept.metadata.resourceVersion)
    (hstatus : Kube.refuses status = false)
    (hj : Volume.ofJson j = some (v.withVersion version)) :
    Serves c (.volume name) .put (some body) (.answer status (some j))
      (c.putVolume (v.withVersion version))
  | stale {name : String} {v kept : Volume} {body : Json} {said : Option Json}
    (hkept : c.volumes.get? name = some kept) (hbody : Volume.ofJson body = some v)
    (hversion : v.metadata.resourceVersion ≠ kept.metadata.resourceVersion)
    (hsaid : Registry.Explains 409 said) :
    Serves c (.volume name) .put (some body) (.answer 409 said) c
  | deleted {t : Target} {status : Nat} {j : Json} (hheld : c.Holds t)
    (hstatus : Kube.refuses status = false) (hj : t.readDeleted j = some ()) :
    Serves c t .delete none (.answer status (some j)) (c.without t)
  | missing {t : Target} {method : Method} {body said : Option Json} (hmethod : method ≠ .get)
    (hgone : ¬ c.Holds t) (hsaid : Registry.Explains 404 said) :
    Serves c t method body (.answer 404 said) c

end Cluster

/-! ## What happens meanwhile -/

inductive Event where
  /-- The recovery has sent a request about the object. -/
  | sent (method : Method) (target : Target)
  /-- The bystander has deleted the object. -/
  | removed (target : Target)
deriving DecidableEq

/-- A cluster, and what happened in it, latest first. -/
structure Scene where
  cluster : Cluster
  events : List Event := []

/-- The bystander deletes some objects. -/
inductive Removals (s : Scene) : Scene → Prop where
  | none : Removals s s
  | remove {s' : Scene} {t : Target} (h : Removals s s') (hheld : s'.cluster.Holds t) :
    Removals s ⟨s'.cluster.without t, .removed t :: s'.events⟩

/-- Some objects are deleted, and then the request is answered. -/
def Scene.Reacts (request : Request) (s : Scene) (reply : Reply) (s' : Scene) : Prop :=
  ∃ (t : Target) (mid : Scene), t.IsNamed ∧ request.path = t.path ∧ Removals s mid ∧
    mid.cluster.Serves t request.method request.body reply s'.cluster ∧
    s'.events = .sent request.method t :: mid.events

/-- What a call of the recovery comes to, and what becomes of the cluster. -/
inductive Settles (c : Cluster) : (q : Question) → Answer q → Cluster → Prop where
  | answered {q : Question} (h : ∀ v, q ≠ .replaceVolume v) :
    Settles c q (c.answer q).1 (c.answer q).2
  | replaced {v kept : Volume} {version : String} (hkept : c.volumes.get? v.name = some kept)
    (hversion : v.metadata.resourceVersion = kept.metadata.resourceVersion) :
    Settles c (.replaceVolume v) (.ok ()) (c.putVolume (v.withVersion version))
  | refused {v : Volume} {f : Fault} (h : ∀ kept, c.volumes.get? v.name = some kept →
      v.metadata.resourceVersion ≠ kept.metadata.resourceVersion) :
    Settles c (.replaceVolume v) (.error f) c

/-- Some objects are deleted, and then the call is answered; the cluster is sound all the time. -/
structure Calls (q : Question) (s : Scene) (x : Answer q) (s' : Scene) : Prop where
  sound : s.cluster.IsSound
  sound' : s'.cluster.IsSound
  settles : ∃ mid, Removals s mid ∧ Settles mid.cluster q x s'.cluster ∧
    s'.events = .sent q.method q.target :: mid.events

/-! ## Fewer objects -/

/-- Objects may be gone, and all that are left are as they were. -/
structure Fewer (c c' : Cluster) : Prop where
  pods : c'.pods.Within c.pods
  claims : c'.claims.Within c.claims
  volumes : c'.volumes.Within c.volumes
  hosts : c'.hosts.Within c.hosts

variable {c c' c'' : Cluster} {s s' : Scene} {t u : Target} {q : Question}

theorem Fewer.refl (c : Cluster) : Fewer c c := ⟨.refl _, .refl _, .refl _, .refl _⟩

theorem Fewer.trans (h : Fewer c c') (h' : Fewer c' c'') : Fewer c c'' where
  pods := h'.pods.trans h.pods
  claims := h'.claims.trans h.claims
  volumes := h'.volumes.trans h.volumes
  hosts := h'.hosts.trans h.hosts

theorem fewer_without (c : Cluster) (t : Target) : Fewer c (c.without t) := by
  cases t with
  | pod _ _ => exact ⟨Table.within_erase _ _, .refl _, .refl _, .refl _⟩
  | claim _ _ => exact ⟨.refl _, Table.within_erase _ _, .refl _, .refl _⟩
  | volume _ => exact ⟨.refl _, .refl _, Table.within_erase _ _, .refl _⟩
  | host _ => exact ⟨.refl _, .refl _, .refl _, Table.within_erase _ _⟩

theorem Fewer.isSound (h : Fewer c c') (hc : c.IsSound) : c'.IsSound where
  pods _ _ pod hpod := hc.pods _ _ pod (h.pods _ pod hpod)
  claims _ _ claim hclaim := hc.claims _ _ claim (h.claims _ claim hclaim)
  volumes _ v hv := hc.volumes _ v (h.volumes _ v hv)
  hosts _ host hhost := hc.hosts _ host (h.hosts _ host hhost)

theorem Cluster.holds_without : (c.without u).Holds t ↔ u ≠ t ∧ c.Holds t := by
  cases u <;> cases t <;> simp [without, Holds, Table.get?_erase]

/-- Deleting what is not there changes nothing. -/
theorem Cluster.without_of_not_holds (h : ¬ c.Holds t) : c.without t = c := by
  cases t <;> simp [without, Table.erase_of_none (not_not.mp h)]

/-- Whatever is missing after the removals is on the record. -/
theorem Removals.recorded (h : Removals s s') :
    ∃ removed : List Target, s'.events = removed.map .removed ++ s.events ∧
      ∀ t, s.cluster.Holds t → ¬ s'.cluster.Holds t → t ∈ removed := by
  induction h with
  | none => exact ⟨[], rfl, fun t hheld hgone => absurd hheld hgone⟩
  | @remove s' u h hheld ih =>
    obtain ⟨removed, hevents, hremoved⟩ := ih
    refine ⟨u :: removed, by rw [hevents]; rfl, fun t ht hgone => ?_⟩
    by_cases hut : u = t
    · exact hut ▸ List.mem_cons_self
    · refine List.mem_cons_of_mem u (hremoved t ht fun hs' => hgone ?_)
      exact Cluster.holds_without.mpr ⟨hut, hs'⟩

theorem Removals.fewer (h : Removals s s') : Fewer s.cluster s'.cluster := by
  induction h with
  | none => exact .refl _
  | remove h hheld ih => exact ih.trans (fewer_without _ _)

/-! ## From requests to calls -/

/-- The call is about an object whose name can be sent, and a volume that it writes may be kept. -/
structure Question.IsSent (q : Question) : Prop where
  named : q.target.IsNamed
  entry : ∀ v, q = .replaceVolume v → v.IsEntry v.name

/-- An object that was found may be kept under the name under which it was looked up. -/
def Agrees : (q : Question) → Answer q → Prop
  | .getPod inNamespace name, x => ∀ pod, x = .ok (some pod) → pod.IsEntry inNamespace name
  | .getClaim _ name, x => ∀ claim, x = .ok (some claim) → claim.IsEntry name
  | .getVolume name, x => ∀ v, x = .ok (some v) → v.IsEntry name
  | _, _ => True

/-- What is fetched is what is kept. -/
theorem attempted_lookup {α : Type} {read : Json → Option α} {what : String} {o : Option α}
    {reply : Reply} (h : c.Serves t .get none reply c')
    (hshown : ∀ j, c.Shows t j → ∃ a, o = some a ∧ read j = some a)
    (hgone : ¬ c.Holds t → o = none) :
    c' = c ∧
      attempted what (Kube.absentIfNotFound (Kube.readBody read (Kube.judge reply))) = .ok o := by
  cases h with
  | found hstatus hj =>
    obtain ⟨a, rfl, ha⟩ := hshown _ hj
    refine ⟨rfl, ?_⟩
    simp [Kube.judge, hstatus, Kube.readBody, ha, Kube.absentIfNotFound, attempted]
  | @absent _ said message hmissing hsaid =>
    have hjudge : Kube.judge (.answer 404 said) = .error (.refused 404 Kube.notFound message) := by
      simp [Kube.judge, Kube.refuses, hsaid]
    refine ⟨rfl, ?_⟩
    rw [hgone hmissing, hjudge]
    rfl
  | missing hmethod => exact absurd rfl hmethod

/-- A deletion succeeds, also of something that is not there. -/
theorem deleted_ok {what : String} {reply : Reply} (h : c.Serves t .delete none reply c') :
    c' = c.without t ∧ deleted what (Kube.readBody t.readDeleted (Kube.judge reply)) = .ok () := by
  cases h with
  | deleted hheld hstatus hj =>
    refine ⟨rfl, ?_⟩
    simp [Kube.judge, hstatus, Kube.readBody, hj, Recovery.deleted, attempted]
  | missing hmethod hgone hsaid =>
    obtain ⟨reason, message, hjudge⟩ := Registry.judge_refused (by decide) hsaid
    refine ⟨(Cluster.without_of_not_holds hgone).symm, ?_⟩
    rw [hjudge]
    rfl

theorem updated_ok {what : String} {status : Nat} {j : Json} {v : Volume}
    (hstatus : Kube.refuses status = false) (hj : Volume.ofJson j = some v) :
    (attempted what (Kube.readBody Volume.ofJson (Kube.judge (.answer status (some j))))).map
      (fun _ => ()) = .ok () := by
  simp [Kube.judge, hstatus, Kube.readBody, hj, attempted, Except.map]

theorem updated_refused {what : String} {status : Nat} {said : Option Json}
    (hstatus : Kube.refuses status = true) (hsaid : Registry.Explains status said) :
    ∃ f, (attempted what (Kube.readBody Volume.ofJson (Kube.judge (.answer status said)))).map
      (fun _ => ()) = .error f := by
  obtain ⟨reason, message, hjudge⟩ := Registry.judge_refused hstatus hsaid
  exact ⟨_, by rw [hjudge]; rfl⟩

/-- A volume is replaced, or it is refused as it is gone or kept in another version. -/
theorem settles_replaceVolume {v : Volume} {reply : Reply} (hv : v.IsRegular)
    (h : c.Serves (.volume v.name) .put (some v.toJson) reply c') :
    Settles c (.replaceVolume v) (Question.understand (.replaceVolume v) (Kube.judge reply))
      c' := by
  cases h with
  | replaced hkept hbody hname hversion hstatus hj =>
    obtain rfl := Option.some.inj ((Volume.ofJson_toJson hv).symm.trans hbody)
    rw [Question.understand, updated_ok hstatus hj]
    exact .replaced hkept hversion
  | stale hkept hbody hversion hsaid =>
    obtain rfl := Option.some.inj ((Volume.ofJson_toJson hv).symm.trans hbody)
    obtain ⟨f, hf⟩ := updated_refused (by decide) hsaid
    rw [Question.understand, hf]
    refine .refused fun kept' hkept' => ?_
    obtain rfl := Option.some.inj (hkept'.symm.trans hkept)
    exact hversion
  | missing hmethod hgone hsaid =>
    obtain ⟨f, hf⟩ := updated_refused (by decide) hsaid
    rw [Question.understand, hf]
    refine .refused fun kept hkept => ?_
    exact absurd (hkept.symm.trans (not_not.mp hgone)) (Option.some_ne_none kept)

theorem Settles.of_eq {x : Answer q} (h : ∀ v, q ≠ .replaceVolume v) (hx : x = (c.answer q).1)
    (hc' : c' = (c.answer q).2) : Settles c q x c' := by
  subst hx hc'
  exact .answered h

/-- The reply to the request of a call is understood as what the call comes to. -/
theorem settles_of_serves {reply : Reply} (hq : q.IsSent)
    (h : c.Serves q.target q.method q.body? reply c') :
    Settles c q (q.understand (Kube.judge reply)) c' := by
  cases q with
  | getPod inNamespace name =>
    obtain ⟨rfl, hx⟩ := attempted_lookup h (fun j hj => by cases hj with
      | pod h hj => exact ⟨_, h, hj⟩) not_not.mp
    exact .of_eq (fun v hv => nomatch hv) hx rfl
  | getClaim inNamespace name =>
    obtain ⟨rfl, hx⟩ := attempted_lookup h (fun j hj => by cases hj with
      | claim h hj => exact ⟨_, h, hj⟩) not_not.mp
    exact .of_eq (fun v hv => nomatch hv) hx rfl
  | getVolume name =>
    obtain ⟨rfl, hx⟩ := attempted_lookup h (fun j hj => by cases hj with
      | volume h hj => exact ⟨_, h, hj⟩) not_not.mp
    exact .of_eq (fun v hv => nomatch hv) hx rfl
  | hostExists name =>
    obtain ⟨rfl, hx⟩ := attempted_lookup h (fun j hj => by cases hj with
      | host h hj => exact ⟨_, h, hj⟩) not_not.mp
    exact .of_eq (fun v hv => nomatch hv) (congrArg (Except.map Option.isSome) hx) rfl
  | replaceVolume v => exact settles_replaceVolume (hq.entry v rfl).regular h
  | deleteClaim inNamespace name =>
    obtain ⟨rfl, hx⟩ := deleted_ok h
    exact .of_eq (fun v hv => nomatch hv) hx rfl
  | deletePod inNamespace name =>
    obtain ⟨rfl, hx⟩ := deleted_ok h
    exact .of_eq (fun v hv => nomatch hv) hx rfl

theorem fewer_answer (h : ∀ v, q ≠ .replaceVolume v) : Fewer c (c.answer q).2 := by
  cases q with
  | replaceVolume v => exact absurd rfl (h v)
  | deleteClaim inNamespace name => exact fewer_without c (.claim inNamespace name)
  | deletePod inNamespace name => exact fewer_without c (.pod inNamespace name)
  | _ => exact .refl c

theorem Cluster.IsSound.putVolume {v : Volume} (hc : c.IsSound) (hv : v.IsEntry v.name) :
    (c.putVolume v).IsSound := by
  refine ⟨hc.pods, hc.claims, fun name u hu => ?_, hc.hosts⟩
  rw [Cluster.putVolume, Table.get?_insert] at hu
  split at hu
  · rename_i hname
    exact hname ▸ Option.some.inj hu ▸ hv
  · exact hc.volumes name u hu

theorem Settles.isSound {x : Answer q} (h : Settles c q x c') (hq : q.IsSent) (hc : c.IsSound) :
    c'.IsSound := by
  cases h with
  | answered h => exact (fewer_answer h).isSound hc
  | replaced hkept hversion => exact hc.putVolume ((hq.entry _ rfl).withVersion _)
  | refused h => exact hc

theorem Settles.agrees {x : Answer q} (h : Settles c q x c') (hc : c.IsSound) : Agrees q x := by
  cases h with
  | answered h =>
    cases q with
    | getPod inNamespace name => exact fun pod hpod => hc.pods _ _ pod (Except.ok.inj hpod)
    | getClaim inNamespace name =>
      exact fun claim hclaim => hc.claims _ _ claim (Except.ok.inj hclaim)
    | getVolume name => exact fun v hv => hc.volumes _ v (Except.ok.inj hv)
    | _ => trivial
  | _ => trivial

theorem Calls.agrees {x : Answer q} (h : Calls q s x s') : Agrees q x := by
  obtain ⟨mid, hremovals, hsettles, -⟩ := h.settles
  exact hsettles.agrees (hremovals.fewer.isSound h.sound)

theorem calls_of_runs {x : Answer q} (hq : q.IsSent) (hs : s.cluster.IsSound)
    (h : Runs Scene.Reacts (remoteAnswer q) s x s') : Calls q s x s' := by
  rw [remoteAnswer_eq hq.named] at h
  obtain ⟨reply, s₁, ⟨t, mid, ht, hpath, hremovals, hserves, hevents⟩, hdone⟩ := Plan.runs_ask.mp h
  obtain ⟨rfl, rfl⟩ := Plan.runs_done.mp hdone
  obtain rfl := Target.path_injective hq.named ht hpath
  have hsettles := settles_of_serves hq hserves
  exact ⟨hs, hsettles.isSound hq (hremovals.fewer.isSound hs), mid, hremovals, hsettles, hevents⟩

/-! ## Every request is answered -/

theorem Cluster.IsSound.exists_shows (hc : c.IsSound) (h : c.Holds t) : ∃ j, c.Shows t j := by
  cases t with
  | pod inNamespace name =>
    obtain ⟨pod, hpod⟩ := Option.ne_none_iff_exists'.mp h
    obtain ⟨j, hj⟩ := (hc.pods _ _ pod hpod).told
    exact ⟨j, .pod hpod hj⟩
  | claim inNamespace name =>
    obtain ⟨claim, hclaim⟩ := Option.ne_none_iff_exists'.mp h
    obtain ⟨j, hj⟩ := (hc.claims _ _ claim hclaim).told
    exact ⟨j, .claim hclaim hj⟩
  | volume name =>
    obtain ⟨v, hv⟩ := Option.ne_none_iff_exists'.mp h
    exact ⟨v.toJson, .volume hv (Volume.ofJson_toJson (hc.volumes _ v hv).regular)⟩
  | host name =>
    obtain ⟨host, hhost⟩ := Option.ne_none_iff_exists'.mp h
    obtain ⟨j, hj⟩ := hc.hosts _ host hhost
    exact ⟨j, .host hhost hj⟩

/-- What the API says of an object that is not there. -/
def missingStatus : Json :=
  .obj [("kind", .str "Status"), ("status", .str "Failure"), ("reason", .str Kube.notFound),
    ("code", .int 404)]

/-- What the API says of an object that it has deleted. -/
def deletedStatus : Json := .obj [("kind", .str "Status"), ("status", .str "Success")]

theorem explains_none (status : Nat) : Registry.Explains status none := fun _ _ _ h => nomatch h

theorem Cluster.IsSound.exists_lookup (hc : c.IsSound) (t : Target) :
    ∃ reply, c.Serves t .get none reply c := by
  by_cases h : c.Holds t
  · obtain ⟨j, hj⟩ := hc.exists_shows h
    exact ⟨.answer 200 (some j), .found (by decide) hj⟩
  · have hsaid : Kube.refusalOf? missingStatus = some (.refused 404 Kube.notFound "") := by decide
    exact ⟨.answer 404 (some missingStatus), .absent h hsaid⟩

theorem Cluster.exists_deletion (c : Cluster) (t : Target) :
    ∃ reply c', c.Serves t .delete none reply c' := by
  by_cases h : c.Holds t
  · have hsaid : t.readDeleted deletedStatus = some () := by cases t <;> rfl
    exact ⟨.answer 200 (some deletedStatus), c.without t, .deleted h (by decide) hsaid⟩
  · exact ⟨.answer 404 none, c, .missing (by decide) h (explains_none 404)⟩

theorem Cluster.exists_replacement (c : Cluster) {v : Volume} (hv : v.IsRegular) :
    ∃ reply c', c.Serves (.volume v.name) .put (some v.toJson) reply c' := by
  have hbody := Volume.ofJson_toJson hv
  cases hkept : c.volumes.get? v.name with
  | none =>
    exact ⟨.answer 404 none, c, .missing (by decide) (not_not.mpr hkept) (explains_none 404)⟩
  | some kept =>
    by_cases hversion : v.metadata.resourceVersion = kept.metadata.resourceVersion
    · have hj := Volume.ofJson_toJson (hv.withVersion "1")
      exact ⟨.answer 200 (some (v.withVersion "1").toJson), _,
        .replaced hkept hbody rfl hversion (by decide) hj⟩
    · exact ⟨.answer 409 none, c, .stale hkept hbody hversion (explains_none 409)⟩

theorem exists_serves (hq : q.IsSent) (hc : c.IsSound) :
    ∃ reply c', c.Serves q.target q.method q.body? reply c' := by
  cases q with
  | replaceVolume v => exact c.exists_replacement (hq.entry v rfl).regular
  | deleteClaim inNamespace name => exact c.exists_deletion (.claim inNamespace name)
  | deletePod inNamespace name => exact c.exists_deletion (.pod inNamespace name)
  | getPod inNamespace name =>
    exact (hc.exists_lookup (.pod inNamespace name)).imp fun _ h => ⟨c, h⟩
  | getClaim inNamespace name =>
    exact (hc.exists_lookup (.claim inNamespace name)).imp fun _ h => ⟨c, h⟩
  | getVolume name => exact (hc.exists_lookup (.volume name)).imp fun _ h => ⟨c, h⟩
  | hostExists name => exact (hc.exists_lookup (.host name)).imp fun _ h => ⟨c, h⟩

theorem runs_remoteAnswer_of_serves {mid : Scene} {reply : Reply} (hq : q.target.IsNamed)
    (hremovals : Removals s mid) (h : mid.cluster.Serves q.target q.method q.body? reply c') :
    Runs Scene.Reacts (remoteAnswer q) s (q.understand (Kube.judge reply))
      ⟨c', .sent q.method q.target :: mid.events⟩ := by
  rw [remoteAnswer_eq hq]
  have hreacts : Scene.Reacts q.request s reply ⟨c', .sent q.method q.target :: mid.events⟩ :=
    ⟨q.target, mid, hq, rfl, hremovals, h, rfl⟩
  exact .ask hreacts (.done _ _)

/-- A lookup may be answered before anything is deleted. -/
theorem runs_lookup (hq : q.IsSent) (hlooks : q.changes = false) (hs : s.cluster.IsSound) :
    Runs Scene.Reacts (remoteAnswer q) s (s.cluster.answer q).1
      ⟨s.cluster, .sent q.method q.target :: s.events⟩ := by
  obtain ⟨reply, c', hserves⟩ := exists_serves hq hs
  have hrun := runs_remoteAnswer_of_serves hq.named .none hserves
  have hsettles := settles_of_serves hq hserves
  generalize q.understand (Kube.judge reply) = x at hrun hsettles
  cases hsettles with
  | answered => rwa [answer_of_not_changes hlooks] at hrun
  | replaced => cases hlooks
  | refused => cases hlooks

/-! ## Procedures that keep to names -/

/-- As long as what is found may be kept, the procedure sends no others than sendable names, and
ends in this way. -/
abbrev Complies {α : Type} (ends : α → Prop) (p : Procedure α) : Prop :=
  Ensures Question.IsSent Agrees ends p

section
variable {α : Type} {ends : α → Prop} {p : Procedure α}

theorem Complies.calls {a : α} (hp : Complies ends p) (hs : s.cluster.IsSound)
    (h : Runs Scene.Reacts (remote p) s a s') :
    Runs Calls p s a s' ∧ ends a ∧ s'.cluster.IsSound := by
  have hstep (q : Question) (s : Scene) (x : Answer q) (s' : Scene) (hq : q.IsSent)
      (hs : s.cluster.IsSound) (h : Runs Scene.Reacts (remoteAnswer q) s x s') :
      Calls q s x s' ∧ Agrees q x ∧ s'.cluster.IsSound := by
    have hcalls := calls_of_runs hq hs h
    exact ⟨hcalls, hcalls.agrees, hcalls.sound'⟩
  exact Ensures.runs hp hstep (Plan.runs_perform.mp h) hs

theorem Complies.exists_run (hp : Complies ends p) (hs : s.cluster.IsSound) :
    ∃ a s', Runs Scene.Reacts (remote p) s a s' := by
  have hstep (q : Question) (s : Scene) (hq : q.IsSent) (hs : s.cluster.IsSound) :
      ∃ x s', Runs Scene.Reacts (remoteAnswer q) s x s' ∧ Agrees q x ∧ s'.cluster.IsSound := by
    obtain ⟨reply, c', hserves⟩ := exists_serves hq hs
    have hrun := runs_remoteAnswer_of_serves hq.named .none hserves
    have hcalls := calls_of_runs hq hs hrun
    exact ⟨_, _, hrun, hcalls.agrees, hcalls.sound'⟩
  obtain ⟨a, s', h⟩ := Ensures.exists_run hp hstep hs
  exact ⟨a, s', Plan.runs_perform.mpr h⟩

end

end Recovery

end RingKeeper
