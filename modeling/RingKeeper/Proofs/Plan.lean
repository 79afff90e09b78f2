import RingKeeper.Plan

/-!
# Runs of plans

A plan runs in surroundings that have a state and react to its questions, not always in the same
way.

1. `Plan.Runs` are all the ways in which a plan can come to its end, and `Plan.runs_bind` and
   `Plan.runs_perform` take the runs of a plan apart along its structure. `Plan.Goes` are the ways
   in which it can go on, also if it never comes to its end; a run is one that does
   (`Plan.runs_iff_goes`).
2. `Plan.OnlyAsks` bounds what a plan may ask. What its surroundings keep through such questions
   they keep through its runs (`Plan.OnlyAsks.keeps`).
3. `Plan.Obeys` says of each question of a plan that it is allowed by what was asked and answered
   before it, whatever the answers are, and also for plans that never come to their end.
4. `Plan.Ensures` is a contract: what a plan asks, and what it ends with, while its answers are as
   agreed.
-/

namespace RingKeeper.Plan

variable {Q Q' S : Type} {A : Q → Type} {A' : Q' → Type} {α β : Type}

/-! ## Runs -/

/-- The plan, begun in one state, may come to this result and leave that state. A reaction to a
question gives the answer, and the state after it. -/
inductive Runs (react : (q : Q) → S → A q → S → Prop) : Plan Q A α → S → α → S → Prop where
  | done (a : α) (s : S) : Runs react (.done a) s a s
  | ask {q : Q} {next : A q → Plan Q A α} {s s' s'' : S} {x : A q} {a : α}
    (hreact : react q s x s') (hrest : Runs react (next x) s' a s'') :
    Runs react (.ask q next) s a s''

variable {react : (q : Q) → S → A q → S → Prop} {s s' s'' : S}

theorem runs_done {a b : α} : Runs react (.done a) s b s' ↔ b = a ∧ s' = s := by
  constructor
  · intro h
    cases h
    exact ⟨rfl, rfl⟩
  · rintro ⟨rfl, rfl⟩
    exact .done b s'

theorem runs_ask {q : Q} {next : A q → Plan Q A α} {a : α} :
    Runs react (.ask q next) s a s'' ↔ ∃ x s', react q s x s' ∧ Runs react (next x) s' a s'' := by
  constructor
  · intro h
    cases h with
    | ask hreact hrest => exact ⟨_, _, hreact, hrest⟩
  · rintro ⟨x, s', hreact, hrest⟩
    exact .ask hreact hrest

theorem runs_request {q : Q} {x : A q} : Runs react (request q) s x s' ↔ react q s x s' := by
  unfold request
  rw [runs_ask]
  constructor
  · rintro ⟨y, t, hreact, hrest⟩
    obtain ⟨rfl, rfl⟩ := runs_done.mp hrest
    exact hreact
  · exact fun h => ⟨x, s', h, .done x s'⟩

theorem runs_bind {p : Plan Q A α} {k : α → Plan Q A β} {b : β} :
    Runs react (p >>= k) s b s'' ↔ ∃ a s', Runs react p s a s' ∧ Runs react (k a) s' b s'' := by
  induction p generalizing s with
  | done a =>
    constructor
    · exact fun h => ⟨a, s, .done a s, h⟩
    · rintro ⟨a', s', h, hrest⟩
      obtain ⟨rfl, rfl⟩ := runs_done.mp h
      exact hrest
  | ask q next ih =>
    rw [ask_bind, runs_ask]
    constructor
    · rintro ⟨x, s', hreact, hrest⟩
      obtain ⟨a, t, hnext, hk⟩ := (ih x).mp hrest
      exact ⟨a, t, .ask hreact hnext, hk⟩
    · rintro ⟨a, t, h, hk⟩
      obtain ⟨x, s', hreact, hnext⟩ := runs_ask.mp h
      exact ⟨x, s', hreact, (ih x).mpr ⟨a, t, hnext, hk⟩⟩

/-- A plan whose questions are answered by plans runs where these plans are the reactions. -/
theorem runs_perform {react' : (q : Q') → S → A' q → S → Prop} {p : Plan Q A α}
    {answer : (q : Q) → Plan Q' A' (A q)} {a : α} :
    Runs react' (p.perform answer) s a s' ↔
      Runs (fun q s x s' => Runs react' (answer q) s x s') p s a s' := by
  induction p generalizing s with
  | done b => exact runs_done.trans runs_done.symm
  | ask q next ih =>
    rw [perform_ask, runs_bind, runs_ask]
    constructor
    · rintro ⟨x, t, hreact, hrest⟩
      exact ⟨x, t, hreact, (ih x).mp hrest⟩
    · rintro ⟨x, t, hreact, hrest⟩
      exact ⟨x, t, hreact, (ih x).mpr hrest⟩

/-- A plan runs in the same way in surroundings that are seen through these. -/
theorem Runs.map {T : Type} {view : S → T} {react' : (q : Q) → T → A q → T → Prop}
    {p : Plan Q A α} {a : α} (h : Runs react p s a s')
    (hview : ∀ q s x s', react q s x s' → react' q (view s) x (view s')) :
    Runs react' p (view s) a (view s') := by
  induction h with
  | done a s => exact .done a (view s)
  | ask hreact hrest ih => exact .ask (hview _ _ _ _ hreact) ih

/-! ## What is left of a plan -/

/-- The plan, begun in one state, may go on until this is left of it, and leave that state. -/
inductive Goes (react : (q : Q) → S → A q → S → Prop) (p : Plan Q A α) (s : S) :
    Plan Q A α → S → Prop where
  | start : Goes react p s p s
  | ask {q : Q} {next : A q → Plan Q A α} {s' s'' : S} {x : A q}
    (h : Goes react p s (.ask q next) s') (hreact : react q s' x s'') :
    Goes react p s (next x) s''

theorem Goes.runs {p p' : Plan Q A α} {a : α} (h : Goes react p s p' s')
    (hrest : Runs react p' s' a s'') : Runs react p s a s'' := by
  induction h with
  | start => exact hrest
  | ask h hreact ih => exact ih (.ask hreact hrest)

theorem Goes.after {q : Q} {next : A q → Plan Q A α} {p' : Plan Q A α} {x : A q}
    (h : Goes react (next x) s' p' s'') (hreact : react q s x s') :
    Goes react (.ask q next) s p' s'' := by
  induction h with
  | start => exact .ask .start hreact
  | ask h hreact' ih => exact .ask ih hreact'

/-- A plan runs if nothing is left of it but its result. -/
theorem runs_iff_goes {p : Plan Q A α} {a : α} :
    Runs react p s a s' ↔ Goes react p s (.done a) s' := by
  constructor
  · intro h
    induction h with
    | done a s => exact .start
    | ask hreact hrest ih => exact ih.after hreact
  · exact fun h => h.runs (.done a s')

/-! ## Bounds on the questions -/

/-- Whatever the answers, the plan asks no other questions than these. -/
def OnlyAsks (may : Q → Prop) : Plan Q A α → Prop
  | .done _ => True
  | .ask q next => may q ∧ ∀ x, OnlyAsks may (next x)

variable {may : Q → Prop} {p : Plan Q A α} {k : α → Plan Q A β}

theorem onlyAsks_request {q : Q} (h : may q) : OnlyAsks may (request q : Plan Q A (A q)) :=
  ⟨h, fun _ => trivial⟩

theorem OnlyAsks.bind (hp : OnlyAsks may p) (hk : ∀ a, OnlyAsks may (k a)) :
    OnlyAsks may (p >>= k) := by
  induction p with
  | done a => exact hk a
  | ask q next ih => exact ⟨hp.1, fun x => ih x (hp.2 x)⟩

theorem OnlyAsks.mono {more : Q → Prop} (hp : OnlyAsks may p) (h : ∀ q, may q → more q) :
    OnlyAsks more p := by
  induction p with
  | done a => trivial
  | ask q next ih => exact ⟨h q hp.1, fun x => ih x (hp.2 x)⟩

theorem onlyAsks_perform {answer : (q : Q) → Plan Q' A' (A q)} {may : Q' → Prop}
    (h : ∀ q, OnlyAsks may (answer q)) (p : Plan Q A α) : OnlyAsks may (p.perform answer) := by
  induction p with
  | done a => trivial
  | ask q next ih => exact (h q).bind ih

/-- Where all that a plan may ask is answered, it comes to its end. -/
theorem OnlyAsks.exists_run (hp : OnlyAsks may p) (hreact : ∀ q s, may q → ∃ x s', react q s x s')
    (s : S) : ∃ a s', Runs react p s a s' := by
  induction p generalizing s with
  | done a => exact ⟨a, s, .done a s⟩
  | ask q next ih =>
    obtain ⟨x, s₁, hx⟩ := hreact q s hp.1
    obtain ⟨a, s', hrest⟩ := ih x (hp.2 x) s₁
    exact ⟨a, s', .ask hx hrest⟩

/-- What is kept through each of the questions is kept through the whole run. -/
theorem OnlyAsks.keeps {I : S → Prop} (hp : OnlyAsks may p)
    (hstep : ∀ q s x s', may q → react q s x s' → I s → I s') {a : α}
    (h : Runs react p s a s') (hs : I s) : I s' := by
  induction h with
  | done a s => exact hs
  | ask hreact hrest ih => exact ih (hp.2 _) (hstep _ _ _ _ hp.1 hreact hs)

/-! ## Rules for the questions -/

/-- A question with its answer. -/
abbrev Exchange {Q : Type} (A : Q → Type) : Type := (q : Q) × A q

/-- Any answer may come; it is noted, with its question, before those that came earlier. -/
def Notes (q : Q) (past : List (Exchange A)) (x : A q) (past' : List (Exchange A)) : Prop :=
  past' = ⟨q, x⟩ :: past

/-- Whatever the answers, the rule allows each question after all that was asked and answered before
it. -/
def Obeys (rule : Q → List (Exchange A) → Prop) : List (Exchange A) → Plan Q A α → Prop
  | _, .done _ => True
  | past, .ask q next => rule q past ∧ ∀ x, Obeys rule (⟨q, x⟩ :: past) (next x)

variable {rule : Q → List (Exchange A) → Prop} {past past' : List (Exchange A)}

theorem obeys_request {q : Q} (h : rule q past) : Obeys rule past (request q) :=
  ⟨h, fun _ => trivial⟩

theorem Obeys.bind (hp : Obeys rule past p)
    (hk : ∀ a past', Runs Notes p past a past' → Obeys rule past' (k a)) :
    Obeys rule past (p >>= k) := by
  induction p generalizing past with
  | done a => exact hk a past (.done a past)
  | ask q next ih =>
    refine ⟨hp.1, fun x => ih x (hp.2 x) fun a past' h => ?_⟩
    exact hk a past' (.ask rfl h)

theorem Obeys.mono {more : Q → List (Exchange A) → Prop} (hp : Obeys rule past p)
    (h : ∀ q past, rule q past → more q past) : Obeys more past p := by
  induction p generalizing past with
  | done a => trivial
  | ask q next ih => exact ⟨h q past hp.1, fun x => ih x (hp.2 x)⟩

theorem obeys_true (p : Plan Q A α) (past : List (Exchange A)) :
    Obeys (fun _ _ => True) past p := by
  induction p generalizing past with
  | done a => trivial
  | ask q next ih => exact ⟨trivial, fun x => ih x _⟩

/-- What is left of a plan obeys the rule, after what was noted of it. -/
theorem Obeys.goes {p' : Plan Q A α} (hp : Obeys rule past p) (h : Goes Notes p past p' past') :
    Obeys rule past' p' := by
  induction h with
  | start => exact hp
  | @ask q next noted past' x h hreact ih =>
    obtain rfl : past' = ⟨q, x⟩ :: noted := hreact
    exact ih.2 x

/-- And what was noted of it was allowed when it was asked. -/
theorem Obeys.allowed {p' : Plan Q A α} {e : Exchange A} {before : List (Exchange A)}
    (hp : Obeys rule [] p) (h : Goes Notes p [] p' past') (he : e :: before <:+ past') :
    rule e.1 before := by
  induction h with
  | start => cases List.suffix_nil.mp he
  | @ask q next noted past' x h hreact ih =>
    obtain rfl : past' = ⟨q, x⟩ :: noted := hreact
    rcases List.suffix_cons_iff.mp he with heq | hold
    · cases heq
      exact (hp.goes h).1
    · exact ih hold

/-- The rule may also go by what came before the plan. -/
theorem Obeys.after (hp : Obeys rule past p) :
    Obeys (fun q past' => past <:+ past' ∧ rule q past') past p := by
  induction p generalizing past with
  | done a => trivial
  | ask q next ih =>
    refine ⟨⟨List.suffix_refl past, hp.1⟩, fun x => (ih x (hp.2 x)).mono fun q past' h => ?_⟩
    exact ⟨(List.suffix_cons _ past).trans h.1, h.2⟩

theorem OnlyAsks.obeys (hp : OnlyAsks may p) (h : ∀ q past, may q → rule q past)
    (past : List (Exchange A)) : Obeys rule past p := by
  induction p generalizing past with
  | done a => trivial
  | ask q next ih => exact ⟨h q past hp.1, fun x => ih x (hp.2 x) _⟩

/-- Each question that was noted was allowed when it was asked. -/
theorem Obeys.noted {a : α} (hp : Obeys rule past p) (h : Runs Notes p past a past')
    {e : Exchange A} (he : e ∈ past') : e ∈ past ∨ ∃ before, rule e.1 before := by
  induction h with
  | done a past => exact Or.inl he
  | @ask q next past noted past' x a hreact hrest ih =>
    obtain rfl : noted = ⟨q, x⟩ :: past := hreact
    rcases ih (hp.2 x) he with he | hrule
    · rcases List.mem_cons.mp he with rfl | he
      · exact Or.inr ⟨past, hp.1⟩
      · exact Or.inl he
    · exact Or.inr hrule

/-- Surroundings that note all exchanges answer in one of the ways that are possible. -/
theorem Runs.notes {noted : S → List (Exchange A)} {a : α}
    (hnoted : ∀ q s x s', react q s x s' → noted s' = ⟨q, x⟩ :: noted s)
    (h : Runs react p s a s') : Runs Notes p (noted s) a (noted s') := h.map hnoted

/-- What a plan notes comes before what was noted already, and does not depend on it. -/
theorem Runs.noted {a : α} (h : Runs Notes p past a past') :
    ∃ asked, past' = asked ++ past ∧ ∀ earlier, Runs Notes p earlier a (asked ++ earlier) := by
  induction h with
  | done a past => exact ⟨[], rfl, fun earlier => .done a earlier⟩
  | @ask q next past noted past' x a hreact hrest ih =>
    obtain rfl : noted = ⟨q, x⟩ :: past := hreact
    obtain ⟨asked, rfl, hruns⟩ := ih
    refine ⟨asked ++ [⟨q, x⟩], by simp, fun earlier => ?_⟩
    have hnext := hruns (⟨q, x⟩ :: earlier)
    rw [List.append_cons] at hnext
    exact .ask rfl hnext

theorem Runs.suffix {a : α} (h : Runs Notes p past a past') : past <:+ past' := by
  obtain ⟨asked, rfl, -⟩ := h.noted
  exact List.suffix_append asked past

/-- What may be asked is all that is noted. -/
theorem OnlyAsks.noted {a : α} (hp : OnlyAsks may p) (h : Runs Notes p past a past') :
    ∃ asked, past' = asked ++ past ∧ ∀ e ∈ asked, may e.1 := by
  refine hp.keeps (I := fun noted => ∃ asked, noted = asked ++ past ∧ ∀ e ∈ asked, may e.1)
    (fun q noted x noted' hq hnoted hI => ?_) h ⟨[], rfl, fun e he => nomatch he⟩
  obtain ⟨asked, rfl, hasked⟩ := hI
  exact ⟨⟨q, x⟩ :: asked, hnoted, List.forall_mem_cons.mpr ⟨hq, hasked⟩⟩

/-- What may be asked is also all that was noted before each question. -/
theorem OnlyAsks.obeys_noted (hp : OnlyAsks may p) (past : List (Exchange A)) :
    Obeys (fun q noted => may q ∧ ∃ asked, noted = asked ++ past ∧ ∀ e ∈ asked, may e.1)
      past p := by
  suffices h : ∀ asked : List (Exchange A), (∀ e ∈ asked, may e.1) →
      Obeys (fun q noted => may q ∧ ∃ asked, noted = asked ++ past ∧ ∀ e ∈ asked, may e.1)
        (asked ++ past) p from h [] fun e he => nomatch he
  induction p with
  | done a => exact fun _ _ => trivial
  | ask q next ih =>
    intro asked hasked
    refine ⟨⟨hp.1, asked, rfl, hasked⟩, fun x => ?_⟩
    exact ih x (hp.2 x) (⟨q, x⟩ :: asked) (List.forall_mem_cons.mpr ⟨hp.1, hasked⟩)

/-! ## Contracts -/

/-- As long as the answers are as given, the plan asks only what it may, and ends as it ensures. -/
def Ensures (may : Q → Prop) (given : (q : Q) → A q → Prop) (ends : α → Prop) : Plan Q A α → Prop
  | .done a => ends a
  | .ask q next => may q ∧ ∀ x, given q x → Ensures may given ends (next x)

variable {given : (q : Q) → A q → Prop} {ends : α → Prop} {ends' : β → Prop}

/-- Nothing is asked of the plan. -/
theorem ensures_true (p : Plan Q A α) : Ensures (fun _ => True) given (fun _ => True) p := by
  induction p with
  | done a => trivial
  | ask q next ih => exact ⟨trivial, fun x _ => ih x⟩

theorem Ensures.bind (hp : Ensures may given ends p)
    (hk : ∀ a, ends a → Ensures may given ends' (k a)) : Ensures may given ends' (p >>= k) := by
  induction p with
  | done a => exact hk a hp
  | ask q next ih => exact ⟨hp.1, fun x hx => ih x (hp.2 x hx)⟩

/-- A plan may rely on plans that answer its questions. -/
theorem Ensures.perform {answer : (q : Q) → Plan Q' A' (A q)} {may' : Q' → Prop}
    {given' : (q : Q') → A' q → Prop} (hp : Ensures may given ends p)
    (h : ∀ q, may q → Ensures may' given' (given q) (answer q)) :
    Ensures may' given' ends (p.perform answer) := by
  induction p with
  | done a => exact hp
  | ask q next ih => exact (h q hp.1).bind fun x hx => ih x (hp.2 x hx)

theorem Ensures.ends_of_notes {a : α} (hp : Ensures may given ends p)
    (h : Runs Notes p past a past') (hpast : ∀ e ∈ past', given e.1 e.2) : ends a := by
  induction h with
  | done a s => exact hp
  | @ask q next s s' s'' x a hreact hrest ih =>
    refine ih (hp.2 x (hpast ⟨q, x⟩ ?_)) hpast
    rw [show s' = ⟨q, x⟩ :: s from hreact] at hrest
    exact hrest.suffix.subset List.mem_cons_self

/-- Where the answers are as agreed in all good states, and these stay good, a plan runs as in any
surroundings that react so. -/
theorem Ensures.runs {react' : (q : Q) → S → A q → S → Prop} {Good : S → Prop} {a : α}
    (hp : Ensures may given ends p)
    (hstep : ∀ q s x s', may q → Good s → react q s x s' →
      react' q s x s' ∧ given q x ∧ Good s')
    (h : Runs react p s a s') (hs : Good s) : Runs react' p s a s' ∧ ends a ∧ Good s' := by
  induction h with
  | done a s => exact ⟨.done a s, hp, hs⟩
  | ask hreact hrest ih =>
    obtain ⟨hreact', hx, hs'⟩ := hstep _ _ _ _ hp.1 hs hreact
    obtain ⟨hrun, hend, hgood⟩ := ih (hp.2 _ hx) hs'
    exact ⟨.ask hreact' hrun, hend, hgood⟩

/-- Where all that a plan may ask is answered as agreed, it comes to its end. -/
theorem Ensures.exists_run {Good : S → Prop} (hp : Ensures may given ends p)
    (hstep : ∀ q s, may q → Good s → ∃ x s', react q s x s' ∧ given q x ∧ Good s')
    (hs : Good s) : ∃ a s', Runs react p s a s' := by
  induction p generalizing s with
  | done a => exact ⟨a, s, .done a s⟩
  | ask q next ih =>
    obtain ⟨x, s₁, hreact, hx, hs₁⟩ := hstep q s hp.1 hs
    obtain ⟨a, s', hrest⟩ := ih x (hp.2 x hx) hs₁
    exact ⟨a, s', .ask hreact hrest⟩

end RingKeeper.Plan
