import RingKeeper.Proofs.Registry.Api
import RingKeeper.Recovery.Remote

/-!
# The recovery's calls as requests

Each call of the recovery is about one object of the cluster, a `Target`.

1. `Target.path_injective` says that a path leads to one object, as no name has a slash, and
   `Target.sentPath?_path` that it is sent as it is, as names are made of the characters of a path.
2. `remoteAnswer_eq` says that a call is one request for its object, and `Question.understand` what
   its reply says to the caller.
-/

namespace RingKeeper.Recovery

open Kube (Refusal Reply Request)

/-! ## Objects -/

/-- The text can stand for an object in a path. -/
def IsName (s : String) : Prop := s ≠ "" ∧ ∀ c ∈ s.toList, Kube.isPathChar c = true ∧ c ≠ '/'

instance (s : String) : Decidable (IsName s) :=
  have := List.decidableBAll (fun c => Kube.isPathChar c = true ∧ c ≠ '/') s.toList
  instDecidableAnd

/-- An object of the cluster. -/
inductive Target where
  | pod (inNamespace name : String)
  | claim (inNamespace name : String)
  | volume (name : String)
  | host (name : String)
deriving DecidableEq

namespace Target

def path : Target → String
  | pod inNamespace name => podPath inNamespace name
  | claim inNamespace name => claimPath inNamespace name
  | volume name => volumePath name
  | host name => hostPath name

/-- What stands between the slashes of the path. -/
def segments : Target → List String
  | pod inNamespace name => ["api", "v1", "namespaces", inNamespace, "pods", name]
  | claim inNamespace name =>
    ["api", "v1", "namespaces", inNamespace, "persistentvolumeclaims", name]
  | volume name => ["api", "v1", "persistentvolumes", name]
  | host name => ["api", "v1", "nodes", name]

/-- Everything in the path is a name. -/
def IsNamed (t : Target) : Prop := ∀ s ∈ t.segments, IsName s

end Target

/-- Segments with a slash in front of each. -/
def slashed (segments : List String) : List Char := segments.flatMap fun s => '/' :: s.toList

theorem slashed_cons (s : String) (segments : List String) :
    slashed (s :: segments) = '/' :: (s.toList ++ slashed segments) := rfl

/-- What follows a segment is nothing, or begins with a slash. -/
theorem slashed_cases (segments : List String) :
    slashed segments = [] ∨ ∃ rest, slashed segments = '/' :: rest := by
  cases segments with
  | nil => exact Or.inl rfl
  | cons s segments => exact Or.inr ⟨_, slashed_cons s segments⟩

theorem eq_of_append_slashed {as bs : List Char} {ss ts : List String} (has : '/' ∉ as)
    (hbs : '/' ∉ bs) (h : as ++ slashed ss = bs ++ slashed ts) :
    as = bs ∧ slashed ss = slashed ts := by
  rcases slashed_cases ss with hss | ⟨cs, hss⟩ <;> rcases slashed_cases ts with hts | ⟨ds, hts⟩ <;>
    rw [hss, hts] at h ⊢
  · simpa using h
  · rw [List.append_nil] at h
    exact absurd (h ▸ List.mem_append_right bs List.mem_cons_self) has
  · rw [List.append_nil] at h
    exact absurd (h.symm ▸ List.mem_append_right as List.mem_cons_self) hbs
  · obtain ⟨hfirst, hrest⟩ := Registry.eq_of_append_slash has hbs h
    exact ⟨hfirst, congrArg (List.cons '/') hrest⟩

theorem slashed_injective {ss ts : List String} (hss : ∀ s ∈ ss, '/' ∉ s.toList)
    (hts : ∀ t ∈ ts, '/' ∉ t.toList) (h : slashed ss = slashed ts) : ss = ts := by
  induction ss generalizing ts with
  | nil =>
    cases ts with
    | nil => rfl
    | cons t ts => cases h
  | cons s ss ih =>
    cases ts with
    | nil => cases h
    | cons t ts =>
      obtain ⟨hs, hss⟩ := List.forall_mem_cons.mp hss
      obtain ⟨ht, hts⟩ := List.forall_mem_cons.mp hts
      rw [slashed_cons, slashed_cons] at h
      obtain ⟨hfirst, hrest⟩ := eq_of_append_slashed hs ht (List.cons.inj h).2
      rw [String.toList_inj.mp hfirst, ih hss hts hrest]

namespace Target

variable {t u : Target}

theorem toList_path (t : Target) : t.path.toList = slashed t.segments := by
  cases t with
  | pod inNamespace name =>
    have hpath : (pod inNamespace name).path =
      "/api/v1/namespaces/" ++ inNamespace ++ "/" ++ "pods" ++ "/" ++ name := rfl
    rw [hpath]
    simp only [String.toList_append, List.append_assoc, slashed, segments, List.flatMap_cons,
      List.flatMap_nil, List.append_nil]
    rfl
  | claim inNamespace name =>
    have hpath : (claim inNamespace name).path =
      "/api/v1/namespaces/" ++ inNamespace ++ "/" ++ "persistentvolumeclaims" ++ "/" ++ name := rfl
    rw [hpath]
    simp only [String.toList_append, List.append_assoc, slashed, segments, List.flatMap_cons,
      List.flatMap_nil, List.append_nil]
    rfl
  | volume name =>
    have hpath : (volume name).path = "/api/v1/" ++ "persistentvolumes" ++ "/" ++ name := rfl
    rw [hpath]
    simp only [String.toList_append, List.append_assoc, slashed, segments, List.flatMap_cons,
      List.flatMap_nil, List.append_nil]
    rfl
  | host name =>
    have hpath : (host name).path = "/api/v1/" ++ "nodes" ++ "/" ++ name := rfl
    rw [hpath]
    simp only [String.toList_append, List.append_assoc, slashed, segments, List.flatMap_cons,
      List.flatMap_nil, List.append_nil]
    rfl

theorem segments_injective (h : t.segments = u.segments) : t = u := by
  cases t <;> cases u <;> simp [segments] at h <;> simp [h]

/-- A path leads to one object. -/
theorem path_injective (ht : t.IsNamed) (hu : u.IsNamed) (h : t.path = u.path) : t = u := by
  have hslash {v : Target} (hv : v.IsNamed) : ∀ s ∈ v.segments, '/' ∉ s.toList :=
    fun s hs hmem => ((hv s hs).2 '/' hmem).2 rfl
  have hlist := congrArg String.toList h
  rw [toList_path, toList_path] at hlist
  exact segments_injective (slashed_injective (hslash ht) (hslash hu) hlist)

/-- A path is sent as it is. -/
theorem sentPath?_path (ht : t.IsNamed) : Kube.sentPath? t.path = some t.path := by
  have hchars : ∀ c ∈ t.path.toList, Kube.isPathChar c = true := by
    rw [toList_path]
    intro c hc
    obtain ⟨s, hs, hc⟩ := List.mem_flatMap.mp hc
    rcases List.mem_cons.mp hc with rfl | hc
    · decide
    · exact ((ht s hs).2 c hc).1
  unfold Kube.sentPath?
  simp only [List.takeWhile_eq_self_iff.mpr hchars, List.dropWhile_eq_nil_iff.mpr hchars,
    String.ofList_toList]

theorem isNamed_namespaced {inNamespace name : String} (hnamespace : IsName inNamespace)
    (hname : IsName name) :
    (pod inNamespace name).IsNamed ∧ (claim inNamespace name).IsNamed := by
  constructor <;>
  · intro s hs
    simp only [segments, List.mem_cons, List.not_mem_nil, or_false] at hs
    rcases hs with rfl | rfl | rfl | rfl | rfl | rfl <;> first | assumption | decide

theorem isNamed_volume {name : String} (hname : IsName name) : (volume name).IsNamed := by
  intro s hs
  simp only [segments, List.mem_cons, List.not_mem_nil, or_false] at hs
  rcases hs with rfl | rfl | rfl | rfl <;> first | assumption | decide

theorem isNamed_host {name : String} (hname : IsName name) : (host name).IsNamed := by
  intro s hs
  simp only [segments, List.mem_cons, List.not_mem_nil, or_false] at hs
  rcases hs with rfl | rfl | rfl | rfl <;> first | assumption | decide

end Target

/-! ## One call, one request -/

namespace Question

def target : Question → Target
  | .getPod inNamespace name => .pod inNamespace name
  | .getClaim inNamespace name => .claim inNamespace name
  | .getVolume name => .volume name
  | .hostExists name => .host name
  | .replaceVolume v => .volume v.name
  | .deleteClaim inNamespace name => .claim inNamespace name
  | .deletePod inNamespace name => .pod inNamespace name

def method : Question → Kube.Method
  | .replaceVolume _ => .put
  | .deleteClaim .. | .deletePod .. => .delete
  | _ => .get

def body? : Question → Option Json
  | .replaceVolume v => some v.toJson
  | _ => none

/-- The request that the call is sent as. -/
def request (q : Question) : Request := { method := q.method, path := q.target.path, body := q.body? }

/-- What the outcome of the request says to the caller. -/
def understand : (q : Question) → Except Refusal (Option Json) → Answer q
  | .getPod inNamespace name, r =>
    attempted s!"get pod {inNamespace}/{name}"
      (Kube.absentIfNotFound (Kube.readBody Pod.ofJson r))
  | .getClaim inNamespace name, r =>
    attempted s!"get PVC {inNamespace}/{name}"
      (Kube.absentIfNotFound (Kube.readBody Claim.ofJson r))
  | .getVolume name, r =>
    attempted s!"get PV {name}" (Kube.absentIfNotFound (Kube.readBody Volume.ofJson r))
  | .hostExists name, r =>
    (attempted s!"get node {name}" (Kube.absentIfNotFound (Kube.readBody Host.ofJson r))).map
      Option.isSome
  | .replaceVolume v, r =>
    (attempted s!"update PV {v.name}" (Kube.readBody Volume.ofJson r)).map fun _ => ()
  | .deleteClaim inNamespace name, r =>
    deleted s!"delete PVC {inNamespace}/{name}" (Kube.readBody (Kube.readDeleted Claim.ofJson) r)
  | .deletePod inNamespace name, r =>
    deleted s!"delete pod {inNamespace}/{name} for rescheduling"
      (Kube.readBody (Kube.readDeleted Pod.ofJson) r)

end Question

/-- A call is one request, and understands the reply to it. -/
theorem remoteAnswer_eq {q : Question} (hq : q.target.IsNamed) :
    remoteAnswer q = .ask q.request fun reply => .done (q.understand (Kube.judge reply)) := by
  have hsent := Target.sentPath?_path hq
  cases q <;>
  · simp only [Question.target, Target.path] at hsent
    simp only [remoteAnswer, Kube.get?, Kube.get, Kube.put, Kube.delete, Kube.send, hsent,
      bind_assoc, pure_bind]
    rfl

end RingKeeper.Recovery
