import Mathlib.Data.List.Nodup
import Mathlib.Data.List.Pairwise
import RingKeeper.Settings.Schema

/-!
# What is read of an environment

A variable denotes the field whose key is its name in lower case.

1. `visit_unknown` and `visit_known` say what comes of taking one variable into a draft.
2. `visitAll_ok`, by induction over the environment, says it of all variables, and `draft_ok` of a
   reading from the start: no field is denoted twice, and each one has the value that its variable
   gives it, or none without a variable.
3. So the order of the variables does not count for the draft (`draft_perm`). A variable without a
   field does not even count for the problem that is reported (`draft_unknown`).
-/

namespace RingKeeper.Schema

/-- A variable of this name belongs to the field. -/
def Denotes (s : Schema) (name : String) (f : s.Field) : Prop := lowerName name = s.key f

/-- All fields are listed, and their keys tell them apart. -/
structure IsWellFormed (s : Schema) : Prop where
  listed : ∀ f, f ∈ s.fields
  distinct : (s.fields.map s.key).Nodup

/-- No variable belongs to the field. -/
def Lacks (s : Schema) (env : Environment) (f : s.Field) : Prop := ∀ p ∈ env, ¬ s.Denotes p.1 f

/-- A variable of the field is read as this value. -/
def Gives (s : Schema) (env : Environment) (f : s.Field) (v : s.Value f) : Prop :=
  ∃ p ∈ env, s.Denotes p.1 f ∧ s.read f p.1 p.2 = .ok v

/-- No two variables belong to one field. -/
def Unambiguous (s : Schema) (env : Environment) : Prop :=
  env.Pairwise fun p q => ∀ f, s.Denotes p.1 f → ¬ s.Denotes q.1 f

variable {s : Schema} {env env' before after : Environment} {p q : String × String}
  {d e : s.Draft} {f g : s.Field} {v : s.Value f} {name value : String}

/-! ## Values -/

theorem readAs_ok {α : Type} {r : Except ValueProblem α} {a : α} :
    readAs r value name = .ok a ↔ r = .ok a := by
  cases r <;> simp [readAs]

theorem need_bind_ok {α : Type} {k : s.Value f → Except EnvironmentProblem α} {a : α} :
    (d.need f >>= k) = .ok a ↔ ∃ v, d f = some v ∧ k v = .ok a := by
  unfold Draft.need
  cases d f <;> simp [bind, Except.bind]

/-! ## One variable -/

theorem IsWellFormed.key_injective (hs : s.IsWellFormed) : Function.Injective s.key := by
  intro f g h
  exact List.inj_on_of_nodup_map hs.distinct (hs.listed f) (hs.listed g) h

theorem Denotes.unique (hs : s.IsWellFormed) (hf : s.Denotes name f) (hg : s.Denotes name g) :
    f = g := hs.key_injective (hf.symm.trans hg)

theorem field?_eq_none (hs : s.IsWellFormed) : s.field? name = none ↔ ∀ f, ¬ s.Denotes name f := by
  simp only [field?, List.find?_eq_none, decide_eq_true_eq, Denotes, eq_comm (a := lowerName name)]
  exact ⟨fun h f => h f (hs.listed f), fun h f _ => h f⟩

theorem field?_eq_some (hs : s.IsWellFormed) : s.field? name = some f ↔ s.Denotes name f := by
  have hfound {g : s.Field} (h : s.field? name = some g) : s.Denotes name g :=
    (of_decide_eq_true (List.find?_some (p := fun g => decide (s.key g = lowerName name)) h)).symm
  refine ⟨hfound, fun hf => ?_⟩
  cases hfield : s.field? name with
  | none => exact absurd hf ((field?_eq_none hs).mp hfield f)
  | some g => rw [hf.unique hs (hfound hfield)]

/-- A variable without a field is passed over. -/
theorem visit_unknown (hs : s.IsWellFormed) (h : ∀ f, ¬ s.Denotes name f) :
    s.visit d name value = .ok d := by
  rw [visit, (field?_eq_none hs).mpr h]

/-- A variable of a field is the first one of that field, and its value can be read. -/
theorem visit_known (hs : s.IsWellFormed) (h : s.Denotes name f) :
    s.visit d name value = .ok e ↔
      d f = none ∧ ∃ v, s.read f name value = .ok v ∧ e = d.set f v := by
  rw [visit, (field?_eq_some hs).mpr h]
  dsimp only
  cases hd : d f with
  | some v => exact ⟨nofun, nofun⟩
  | none =>
    rw [if_neg (by simp)]
    cases hread : s.read f name value with
    | error problem => exact ⟨nofun, fun ⟨_, _, hv, _⟩ => nomatch hv⟩
    | ok v =>
      refine ⟨fun he => ⟨rfl, v, rfl, (Except.ok.inj he).symm⟩, ?_⟩
      rintro ⟨-, v', hv, rfl⟩
      cases hv
      rfl

/-! ## All variables -/

theorem lacks_cons : s.Lacks (p :: env) f ↔ ¬ s.Denotes p.1 f ∧ s.Lacks env f :=
  List.forall_mem_cons

theorem gives_cons : s.Gives (p :: env) f v ↔
    s.Denotes p.1 f ∧ s.read f p.1 p.2 = .ok v ∨ s.Gives env f v := by
  simp [Gives]

theorem unambiguous_cons : s.Unambiguous (p :: env) ↔
    (∀ f, s.Denotes p.1 f → s.Lacks env f) ∧ s.Unambiguous env := by
  refine List.pairwise_cons.trans (and_congr_left fun _ => ?_)
  exact ⟨fun h f hf q hq => h q hq f hf, fun h q hq f hf => h f hf q hq⟩

theorem Lacks.not_gives (h : s.Lacks env f) : ¬ s.Gives env f v :=
  fun ⟨p, hp, hf, _⟩ => h p hp hf

/-- Only one variable can give a field its value. -/
theorem Unambiguous.eq_of_denotes (h : s.Unambiguous env) (hp : p ∈ env) (hq : q ∈ env)
    (hpf : s.Denotes p.1 f) (hqf : s.Denotes q.1 f) : p = q := by
  by_contra hne
  have hsymm : Std.Symm fun p q : String × String =>
      ∀ f, s.Denotes p.1 f → ¬ s.Denotes q.1 f := ⟨fun _ _ hpq f hq hp => hpq f hp hq⟩
  exact List.Pairwise.forall h hp hq hne f hpf hqf

/-- What the draft holds of a field after an environment was read into it. -/
def Leaves (s : Schema) (env : Environment) (d e : s.Draft) (f : s.Field) : Prop :=
  s.Lacks env f ∧ e f = d f ∨ d f = none ∧ ∃ v, s.Gives env f v ∧ e f = some v

/-- A variable of another field, or of none, leaves the field to the ones behind it. -/
theorem leaves_cons_of_not (h : ¬ s.Denotes p.1 f) :
    s.Leaves (p :: env) d e f ↔ s.Leaves env d e f := by
  simp [Leaves, lacks_cons, gives_cons, h]

theorem leaves_cons_of_denotes (h : s.Denotes p.1 f) (henv : s.Lacks env f) :
    s.Leaves (p :: env) d e f ↔
      d f = none ∧ ∃ v, s.read f p.1 p.2 = .ok v ∧ e f = some v := by
  simp [Leaves, lacks_cons, gives_cons, h, henv.not_gives]

theorem leaves_set_self (w : s.Value f) :
    s.Leaves env (d.set f w) e f ↔ s.Lacks env f ∧ e f = some w := by
  simp [Leaves]

theorem leaves_set_of_ne (h : f ≠ g) (w : s.Value f) :
    s.Leaves env (d.set f w) e g ↔ s.Leaves env d e g := by
  simp [Leaves, h]

/-- A variable of a field decides about the field alone, and has to be the only one. -/
theorem leaves_cons (hs : s.IsWellFormed) (hf : s.Denotes p.1 f) :
    (s.Lacks env f ∧ ∀ g, s.Leaves (p :: env) d e g) ↔
      d f = none ∧ ∃ v, s.read f p.1 p.2 = .ok v ∧ ∀ g, s.Leaves env (d.set f v) e g := by
  have hother {g : s.Field} (hg : f ≠ g) : ¬ s.Denotes p.1 g := fun h => hg (hf.unique hs h)
  constructor
  · rintro ⟨henv, h⟩
    obtain ⟨hd, v, hv, he⟩ := (leaves_cons_of_denotes hf henv).mp (h f)
    refine ⟨hd, v, hv, fun g => ?_⟩
    by_cases hg : f = g
    · subst hg
      exact (leaves_set_self v).mpr ⟨henv, he⟩
    · exact (leaves_set_of_ne hg v).mpr ((leaves_cons_of_not (hother hg)).mp (h g))
  · rintro ⟨hd, v, hv, h⟩
    obtain ⟨henv, he⟩ := (leaves_set_self v).mp (h f)
    refine ⟨henv, fun g => ?_⟩
    by_cases hg : f = g
    · subst hg
      exact (leaves_cons_of_denotes hf henv).mpr ⟨hd, v, hv, he⟩
    · exact (leaves_cons_of_not (hother hg)).mpr ((leaves_set_of_ne hg v).mp (h g))

theorem visitAll_cons : s.visitAll d (p :: env) = .ok e ↔
    ∃ d', s.visit d p.1 p.2 = .ok d' ∧ s.visitAll d' env = .ok e := by
  rw [visitAll]
  cases s.visit d p.1 p.2 <;> simp

/-- No field is denoted twice, and each variable leaves its value. -/
theorem visitAll_ok (hs : s.IsWellFormed) : s.visitAll d env = .ok e ↔
    s.Unambiguous env ∧ ∀ f, s.Leaves env d e f := by
  -- For any draft, since each variable is taken into what those before it have left.
  induction env generalizing d with
  | nil =>
    constructor
    · rintro ⟨⟩
      exact ⟨List.Pairwise.nil, fun f => Or.inl ⟨nofun, rfl⟩⟩
    · rintro ⟨-, h⟩
      have hsame : d = e := funext fun f => by
        rcases h f with ⟨-, he⟩ | ⟨-, _, ⟨_, hp, _⟩, _⟩
        · exact he.symm
        · cases hp
      exact congrArg Except.ok hsame
  | cons p env ih =>
    rw [visitAll_cons, unambiguous_cons]
    simp only [ih]
    by_cases hp : ∃ f, s.Denotes p.1 f
    · obtain ⟨f, hf⟩ := hp
      have hlacks : (∀ g, s.Denotes p.1 g → s.Lacks env g) ↔ s.Lacks env f :=
        ⟨fun h => h f hf, fun h g hg => hf.unique hs hg ▸ h⟩
      rw [hlacks, and_right_comm, leaves_cons hs hf]
      simp only [visit_known hs hf]
      constructor
      · rintro ⟨_, ⟨hd, v, hv, rfl⟩, henv, h⟩
        exact ⟨⟨hd, v, hv, h⟩, henv⟩
      · rintro ⟨⟨hd, v, hv, h⟩, henv⟩
        exact ⟨_, ⟨hd, v, hv, rfl⟩, henv, h⟩
    · have hnone : ∀ f, ¬ s.Denotes p.1 f := not_exists.mp hp
      simp only [visit_unknown hs hnone, leaves_cons_of_not (hnone _)]
      constructor
      · rintro ⟨_, ⟨⟩, henv, h⟩
        exact ⟨⟨fun f hf => absurd hf (hnone f), henv⟩, h⟩
      · rintro ⟨⟨-, henv⟩, h⟩
        exact ⟨d, rfl, henv, h⟩

/-- A draft is read of the values that the variables give, each field's from one variable. -/
theorem draft_ok (hs : s.IsWellFormed) : s.draft env = .ok d ↔
    s.Unambiguous env ∧
      ∀ f, s.Lacks env f ∧ d f = none ∨ ∃ v, s.Gives env f v ∧ d f = some v := by
  simp only [draft, visitAll_ok hs, Leaves, Draft.empty, true_and]

/-! ## The order of the variables -/

theorem Unambiguous.perm (h : s.Unambiguous env) (hperm : env.Perm env') : s.Unambiguous env' :=
  (hperm.pairwise_iff fun hpq f hq hp => hpq f hp hq).mp h

theorem Lacks.perm (h : s.Lacks env f) (hperm : env.Perm env') : s.Lacks env' f :=
  fun p hp => h p (hperm.mem_iff.mpr hp)

theorem Gives.perm (h : s.Gives env f v) (hperm : env.Perm env') : s.Gives env' f v := by
  obtain ⟨p, hp, hread⟩ := h
  exact ⟨p, hperm.mem_iff.mp hp, hread⟩

/-- Variables may stand in any order. -/
theorem draft_perm (hs : s.IsWellFormed) (hperm : env.Perm env') (h : s.draft env = .ok d) :
    s.draft env' = .ok d := by
  obtain ⟨hunique, hfields⟩ := (draft_ok hs).mp h
  refine (draft_ok hs).mpr ⟨hunique.perm hperm, fun f => ?_⟩
  rcases hfields f with ⟨hlacks, hd⟩ | ⟨v, hgives, hd⟩
  · exact Or.inl ⟨hlacks.perm hperm, hd⟩
  · exact Or.inr ⟨v, hgives.perm hperm, hd⟩

/-! ## Variables without a field -/

theorem visitAll_unknown (hs : s.IsWellFormed) (h : ∀ f, ¬ s.Denotes name f) :
    s.visitAll d (before ++ (name, value) :: after) = s.visitAll d (before ++ after) := by
  induction before generalizing d with
  | nil => rw [List.nil_append, List.nil_append, visitAll, visit_unknown hs h]
  | cons p before ih =>
    rw [List.cons_append, List.cons_append, visitAll, visitAll]
    cases s.visit d p.1 p.2 with
    | error problem => rfl
    | ok d' => exact ih

/-- A variable without a field might as well be absent. -/
theorem draft_unknown (hs : s.IsWellFormed) (h : ∀ f, ¬ s.Denotes name f) :
    s.draft (before ++ (name, value) :: after) = s.draft (before ++ after) :=
  visitAll_unknown hs h

end RingKeeper.Schema
