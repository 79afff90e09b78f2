import RingKeeper.Proofs.Recovery.Bystander

/-!
# The halves of a recovery

1. `assess` looks a pod up and judges it, and `treat` does what the verdict asks for. Together they
   are the recovery (`recover_eq`).
2. `andThen` is how the recovery goes on after each step that succeeds. `findClaims_cons`,
   `forAll_cons` and `startOver_eq` say so of its parts.
3. `Succeeds` is what a step comes to in a cluster that is sound. All steps of the recovery send
   requests for sendable names only (`succeeds_assess`, `succeeds_treat`).
-/

namespace RingKeeper.Recovery

open Plan (Ensures Runs)

variable {s s' : Scene} {q : Question}

/-! ## The halves of a recovery -/

section
variable {α β : Type}

/-- Goes on with the result, if there is one. -/
def andThen (p : Procedure (Attempt α)) (k : α → Procedure (Attempt β)) :
    Procedure (Attempt β) := do
  match ← p with
  | .error f => return .error f
  | .ok a => k a

theorem runs_andThen {react : (q : Question) → Scene → Answer q → Scene → Prop}
    {p : Procedure (Attempt α)} {k : α → Procedure (Attempt β)} {x : Attempt β} :
    Runs react (andThen p k) s x s' ↔ (∃ f, x = .error f ∧ Runs react p s (.error f) s') ∨
      ∃ a s₁, Runs react p s (.ok a) s₁ ∧ Runs react (k a) s₁ x s' := by
  unfold andThen
  rw [Plan.runs_bind]
  constructor
  · rintro ⟨y, s₁, hp, hk⟩
    cases y with
    | error f =>
      obtain ⟨rfl, rfl⟩ := Plan.runs_done.mp hk
      exact Or.inl ⟨f, rfl, hp⟩
    | ok a => exact Or.inr ⟨a, s₁, hp, hk⟩
  · rintro (⟨f, rfl, hp⟩ | ⟨a, s₁, hp, hk⟩)
    · exact ⟨.error f, s', hp, .done _ _⟩
    · exact ⟨.ok a, s₁, hp, hk⟩

end

/-- Looks the pod up, and judges it if there is one. -/
def assess (evictionLabel : Option String) (inNamespace name : String) :
    Procedure (Attempt (Option (Pod × Verdict))) := do
  match ← ask (.getPod inNamespace name) with
  | .error f => return .error f
  | .ok none => return .ok none
  | .ok (some pod) =>
    match ← diagnose pod evictionLabel with
    | .error f =>
      return .error
        (f.within (.message s!"failed to detect recovery condition of {inNamespace}/{name}"))
    | .ok verdict => return .ok (some (pod, verdict))

/-- Gives the pod a clean start if the verdict on it asks for one. -/
def treat (inNamespace name : String) : Option (Pod × Verdict) → Procedure (Attempt Verdict)
  | none => return .ok .healthy
  | some (pod, verdict) => do
    if verdict.needsRecovery then
      match ← startOver pod with
      | .error f =>
        return .error (f.within (.message s!"failed to clean start pod {inNamespace}/{name}"))
      | .ok () => return .ok verdict
    else return .ok verdict

theorem recover_eq (evictionLabel : Option String) (inNamespace name : String) :
    recover evictionLabel inNamespace name =
      andThen (assess evictionLabel inNamespace name) (treat inNamespace name) := by
  unfold recover andThen assess
  rw [bind_assoc]
  refine congrArg (ask (.getPod inNamespace name) >>= ·) (funext fun x => ?_)
  cases x with
  | error f => rfl
  | ok found =>
    cases found with
    | none => rfl
    | some pod =>
      dsimp only
      rw [bind_assoc]
      refine congrArg (diagnose pod evictionLabel >>= ·) (funext fun y => ?_)
      cases y <;> rfl

/-- A procedure that passes failures on goes on with the results. -/
theorem bind_eq_andThen {α β : Type} {k : Attempt α → Procedure (Attempt β)}
    (p : Procedure (Attempt α)) (hfails : ∀ f, k (.error f) = .done (.error f)) :
    (p >>= k) = andThen p fun a => k (.ok a) := by
  refine congrArg (p >>= ·) (funext fun x => ?_)
  cases x with
  | error f => exact hfails f
  | ok a => rfl

theorem firstDefect_cons (inNamespace claim : String) (claims : List String) :
    firstDefect inNamespace (claim :: claims) =
      andThen (claimDefect? inNamespace claim) fun found =>
        found.elim (firstDefect inNamespace claims) fun verdict => return .ok verdict := by
  refine Eq.trans (bind_eq_andThen _ ?_) (congrArg (andThen _) (funext fun found => ?_))
  · exact fun _ => rfl
  · cases found <;> rfl

theorem findClaims_cons (inNamespace name : String) (names : List String) :
    findClaims inNamespace (name :: names) = andThen (ask (.getClaim inNamespace name))
      fun found : Option Claim => andThen (findClaims inNamespace names)
        fun claims => return .ok (found.toList ++ claims) := by
  refine Eq.trans (bind_eq_andThen _ ?_) (congrArg (andThen _) (funext fun found => ?_))
  · exact fun _ => rfl
  · exact bind_eq_andThen _ fun _ => rfl

theorem forAll_cons {β : Type} (step : β → Procedure (Attempt Unit)) (b : β) (bs : List β) :
    forAll step (b :: bs) = andThen (step b) fun _ => forAll step bs :=
  bind_eq_andThen _ fun _ => rfl

theorem startOver_eq (pod : Pod) : startOver pod =
    andThen (findClaims pod.metadata.namespaceOrEmpty pod.mountedClaims) fun claims =>
      andThen (forAll detach (claims.filterMap Claim.volume?)) fun _ =>
        andThen (forAll (fun claim => ask (.deleteClaim pod.metadata.namespaceOrEmpty
          claim.metadata.nameOrEmpty)) claims) fun _ =>
            ask (.deletePod pod.metadata.namespaceOrEmpty pod.metadata.nameOrEmpty) := by
  refine Eq.trans (bind_eq_andThen _ ?_) (congrArg (andThen _) (funext fun claims => ?_))
  · exact fun _ => rfl
  refine Eq.trans (bind_eq_andThen _ ?_) (congrArg (andThen _) (funext fun _ => ?_))
  · exact fun _ => rfl
  exact bind_eq_andThen _ fun _ => rfl

/-! ### Names only -/

theorem Question.IsSent.of_named (h : q.target.IsNamed) (hq : ∀ v, q ≠ .replaceVolume v) :
    q.IsSent := ⟨h, fun v hv => absurd hv (hq v)⟩

theorem complies_ask_bind {α : Type} {ends : α → Prop} {k : Answer q → Procedure α} (hq : q.IsSent)
    (hk : ∀ x, Agrees q x → Complies ends (k x)) : Complies ends (ask q >>= k) := ⟨hq, hk⟩

/-- The contract of a procedure that may fail: what it comes to, if it succeeds. -/
abbrev Succeeds {α : Type} (post : α → Prop) : Procedure (Attempt α) → Prop :=
  Complies fun x => ∀ a, x = .ok a → post a

section
variable {α β : Type} {inNamespace name volume claim host : String} {pod : Pod}
  {evictionLabel : Option String}

theorem succeeds_ok {post : α → Prop} {a : α} (h : post a) :
    Succeeds post (return .ok a : Procedure (Attempt α)) :=
  fun _ hb => Except.ok.inj hb ▸ h

theorem Succeeds.andThen {mid : α → Prop} {post : β → Prop} {p : Procedure (Attempt α)}
    {k : α → Procedure (Attempt β)} (hp : Succeeds mid p) (hk : ∀ a, mid a → Succeeds post (k a)) :
    Succeeds post (Recovery.andThen p k) := by
  refine Ensures.bind hp fun x hx => ?_
  cases x with
  | error f => exact fun _ hb => nomatch hb
  | ok a => exact hk a (hx a rfl)

theorem succeeds_volumeDefect? (hvolume : IsName volume) :
    Succeeds (fun _ => True) (volumeDefect? volume) := by
  unfold volumeDefect?
  have hnamed := Target.isNamed_volume hvolume
  refine complies_ask_bind (.of_named hnamed fun _ h => nomatch h) fun x hx => ?_
  rcases x with f | - | v
  · exact fun _ _ => trivial
  · exact fun _ _ => trivial
  · dsimp only
    cases hhost : v.requiredHost? with
    | none => exact fun _ _ => trivial
    | some host =>
      have hnamed := Target.isNamed_host ((hx v rfl).host host hhost)
      refine complies_ask_bind (.of_named hnamed fun _ h => nomatch h) fun y _ => ?_
      rcases y with f | - | - <;> exact fun _ _ => trivial

theorem succeeds_claimDefect? (hnamespace : IsName inNamespace) (hclaim : IsName claim) :
    Succeeds (fun _ => True) (claimDefect? inNamespace claim) := by
  unfold claimDefect?
  have hnamed := (Target.isNamed_namespaced hnamespace hclaim).2
  refine complies_ask_bind (.of_named hnamed fun _ h => nomatch h) fun x hx => ?_
  rcases x with f | - | k
  · exact fun _ _ => trivial
  · exact fun _ _ => trivial
  · dsimp only
    split
    · cases hvolume : k.volume? with
      | none => exact fun _ _ => trivial
      | some volume => exact succeeds_volumeDefect? ((hx k rfl).volume volume hvolume)
    · exact fun _ _ => trivial
    · exact fun _ _ => trivial

theorem succeeds_firstDefect {claims : List String} (hnamespace : IsName inNamespace)
    (hclaims : ∀ claim ∈ claims, IsName claim) :
    Succeeds (fun _ => True) (firstDefect inNamespace claims) := by
  induction claims with
  | nil => exact fun _ _ => trivial
  | cons claim claims ih =>
    obtain ⟨hclaim, hclaims⟩ := List.forall_mem_cons.mp hclaims
    rw [firstDefect_cons]
    refine (succeeds_claimDefect? hnamespace hclaim).andThen fun found _ => ?_
    cases found with
    | none => exact ih hclaims
    | some verdict => exact fun _ _ => trivial

theorem succeeds_diagnose (hnamespace : IsName inNamespace) (hpod : pod.IsEntry inNamespace name) :
    Succeeds (fun _ => True) (diagnose pod evictionLabel) := by
  unfold diagnose
  split
  · exact fun _ _ => trivial
  · split
    · exact succeeds_firstDefect (hpod.inNamespace ▸ hnamespace) hpod.claims
    · exact fun _ _ => trivial

/-- The names in the claim can be sent. -/
def HasNames (claim : Claim) : Prop :=
  IsName claim.metadata.nameOrEmpty ∧ ∀ volume, claim.volume? = some volume → IsName volume

theorem succeeds_findClaims {names : List String} (hnamespace : IsName inNamespace)
    (hnames : ∀ name ∈ names, IsName name) :
    Succeeds (fun claims => ∀ claim ∈ claims, HasNames claim) (findClaims inNamespace names) := by
  induction names with
  | nil => exact succeeds_ok fun _ h => nomatch h
  | cons name names ih =>
    obtain ⟨hname, hnames⟩ := List.forall_mem_cons.mp hnames
    have hask : Succeeds (fun found : Option Claim => ∀ claim, found = some claim → HasNames claim)
        (ask (.getClaim inNamespace name)) := by
      have hnamed := (Target.isNamed_namespaced hnamespace hname).2
      refine ⟨.of_named hnamed fun _ h => (nomatch h), ?_⟩
      rintro x hx found rfl claim rfl
      exact ⟨(hx claim rfl).name ▸ hname, (hx claim rfl).volume⟩
    rw [findClaims_cons]
    refine hask.andThen fun found hfound => (ih hnames).andThen fun claims hclaims => succeeds_ok ?_
    intro claim hclaim
    rcases List.mem_append.mp hclaim with hmem | hmem
    · exact hfound claim (Option.mem_toList.mp hmem)
    · exact hclaims claim hmem

theorem succeeds_detach (hvolume : IsName volume) :
    Succeeds (fun _ => True) (detach volume) := by
  unfold detach
  have hnamed := Target.isNamed_volume hvolume
  refine complies_ask_bind (.of_named hnamed fun _ h => nomatch h) fun x hx => ?_
  rcases x with f | - | v
  · exact fun _ _ => trivial
  · exact fun _ _ => trivial
  · dsimp only
    split
    · obtain rfl : v.name = volume := (hx v rfl).name
      refine ⟨⟨hnamed, fun u hu => ?_⟩, fun _ _ _ _ => trivial⟩
      obtain rfl := Question.replaceVolume.inj hu
      exact (hx v rfl).unclaimed
    · exact fun _ _ => trivial

theorem succeeds_forAll {step : β → Procedure (Attempt Unit)} {bs : List β}
    (h : ∀ b ∈ bs, Succeeds (fun _ => True) (step b)) :
    Succeeds (fun _ => True) (forAll step bs) := by
  induction bs with
  | nil => exact fun _ _ => trivial
  | cons b bs ih =>
    obtain ⟨hb, hbs⟩ := List.forall_mem_cons.mp h
    rw [forAll_cons]
    exact hb.andThen fun _ _ => ih hbs

theorem succeeds_startOver (hnamespace : IsName inNamespace) (hname : IsName name)
    (hpod : pod.IsEntry inNamespace name) : Succeeds (fun _ => True) (startOver pod) := by
  obtain ⟨rfl, rfl, hclaims, -⟩ := hpod
  rw [startOver_eq]
  refine (succeeds_findClaims hnamespace hclaims).andThen fun claims hnames => ?_
  have hdetach : Succeeds (fun _ => True) (forAll detach (claims.filterMap Claim.volume?)) := by
    refine succeeds_forAll fun volume hvolume => succeeds_detach ?_
    obtain ⟨claim, hclaim, hvolume⟩ := List.mem_filterMap.mp hvolume
    exact (hnames claim hclaim).2 volume hvolume
  refine hdetach.andThen fun _ _ => (succeeds_forAll fun claim hclaim => ?_).andThen fun _ _ => ?_
  · have hnamed := (Target.isNamed_namespaced hnamespace (hnames claim hclaim).1).2
    exact ⟨.of_named hnamed fun _ h => (nomatch h), fun _ _ _ _ => trivial⟩
  · have hnamed := (Target.isNamed_namespaced hnamespace hname).1
    exact ⟨.of_named hnamed fun _ h => (nomatch h), fun _ _ _ _ => trivial⟩

theorem succeeds_assess (hnamespace : IsName inNamespace) (hname : IsName name) :
    Succeeds (fun found => ∀ pod verdict, found = some (pod, verdict) →
      pod.IsEntry inNamespace name) (assess evictionLabel inNamespace name) := by
  unfold assess
  have hnamed := (Target.isNamed_namespaced hnamespace hname).1
  refine complies_ask_bind (.of_named hnamed fun _ h => nomatch h) fun x hx => ?_
  rcases x with f | - | pod
  · exact fun _ h => nomatch h
  · exact succeeds_ok fun _ _ h => nomatch h
  · refine Ensures.bind (succeeds_diagnose hnamespace (hx pod rfl)) fun y _ => ?_
    cases y with
    | error f => exact fun _ h => nomatch h
    | ok verdict =>
      refine succeeds_ok fun pod' verdict' h => ?_
      cases h
      exact hx pod rfl

theorem succeeds_treat {found : Option (Pod × Verdict)} (hnamespace : IsName inNamespace)
    (hname : IsName name)
    (hfound : ∀ pod verdict, found = some (pod, verdict) → pod.IsEntry inNamespace name) :
    Succeeds (fun _ => True) (treat inNamespace name found) := by
  cases found with
  | none => exact fun _ _ => trivial
  | some judged =>
    obtain ⟨pod, verdict⟩ := judged
    dsimp only [treat]
    split
    · refine Ensures.bind (succeeds_startOver hnamespace hname (hfound pod verdict rfl))
        fun x _ => ?_
      cases x <;> exact fun _ _ => trivial
    · exact fun _ _ => trivial

end

end RingKeeper.Recovery
