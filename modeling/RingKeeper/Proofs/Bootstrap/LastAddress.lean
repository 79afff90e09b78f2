import RingKeeper.Proofs.Bootstrap.Jobs
import RingKeeper.Proofs.Bootstrap.LeftLock
import RingKeeper.Proofs.Registry.History

/-!
# The address that a node replaces

A node is only ever told to replace itself, at the address that it recorded last.

1. `Careful` is the rule for the questions of a job: what it writes to the registry, and to the
   marker, it derives from what it read last. `obeys_script` says that every job obeys it, and so it
   does in every world, where its steps are those of its script (`careful_of_reaches`).
2. `Changes` lists what an answer can mean for the registry, and `Sound` is the invariant: the
   registry has, for each pod, the address that was recorded for it last (`addressIn`), and so had
   every configmap that was read when it was read.
3. `marks_last_address` is what this says of the marker.
-/

namespace RingKeeper.Bootstrap

open Plan (Exchange Notes Obeys OnlyAsks Runs)
open Registry (OneEdit Store readAfter writerKey)
open Contention (Snapshot snapshot_of_stored)

/-! ## What is read and recorded -/

/-- The configmap that was read by an exchange. -/
def readOf : Exchange Step.Answer → Option ConfigMap
  | ⟨⟨.store (.get _), _⟩, .ok c⟩ => some c
  | _ => none

/-- Whether an address was recorded by the exchange. -/
def records : Exchange Step.Answer → Bool
  | ⟨⟨.store (.replace _), true⟩, .ok _⟩ => true
  | _ => false

/-- The configmap that was read last. -/
def lastRead (past : List (Exchange Step.Answer)) : Option ConfigMap := past.findSome? readOf

variable {ι : Type} [DecidableEq ι]

omit [DecidableEq ι] in
/-- The address that was recorded last for the pod; or else its entry at first. -/
def addressIn (b : ι → Bootstrap) (first : Store) (pod : String) : History ι → Option String
  | [] => first.configMap?.bind (·.dataAt? pod)
  | (i, e) :: history =>
    if (b i).settings.podName = pod ∧ records e = true then some (b i).settings.podIp
    else addressIn b first pod history

theorem lastRead_cons_of_none {e : Exchange Step.Answer} (h : readOf e = none)
    (past : List (Exchange Step.Answer)) : lastRead (e :: past) = lastRead past := by
  unfold lastRead
  rw [List.findSome?_cons, h]

theorem lastRead_cons_of_some {e : Exchange Step.Answer} {c : ConfigMap} (h : readOf e = some c)
    (past : List (Exchange Step.Answer)) : lastRead (e :: past) = some c := by
  unfold lastRead
  rw [List.findSome?_cons, h]

theorem lastRead_call (call : Registry.Question) (recording : Bool) (x : Registry.Answer call)
    (past : List (Exchange Step.Answer)) :
    lastRead (⟨⟨.store call, recording⟩, x⟩ :: past) = readAfter (lastRead past) call x := by
  cases call <;> cases x <;> rfl

theorem readOf_of_not_isCall {s : Step} (h : s.question.isCall = false) (x : s.Answer) :
    readOf ⟨s, x⟩ = none := by
  obtain ⟨q, recording⟩ := s
  cases q <;> first | rfl | cases h

/-- With one more exchange, what a job read last is what was read there, or what it read before. -/
theorem lastRead_pastOf_cons {i j : ι} {e : Exchange Step.Answer} {history : History ι}
    {c : ConfigMap} (h : lastRead (pastOf j ((i, e) :: history)) = some c) :
    readOf e = some c ∨ lastRead (pastOf j history) = some c := by
  by_cases hj : i = j
  · subst hj
    rw [pastOf_cons_self] at h
    cases hread : readOf e with
    | none =>
      rw [lastRead_cons_of_none hread] at h
      exact Or.inr h
    | some d =>
      rw [lastRead_cons_of_some hread] at h
      exact Or.inl h
  · rw [pastOf_cons_of_ne hj] at h
    exact Or.inr h

/-- What a job read last it read at some time, and nothing since. -/
theorem exists_read {i : ι} {history : History ι} {c : ConfigMap}
    (h : lastRead (pastOf i history) = some c) : ∃ since e before,
      history = since ++ (i, e) :: before ∧ readOf e = some c ∧
      ∀ x ∈ since, x.1 = i → readOf x.2 = none := by
  induction history with
  | nil => cases h
  | cons x history ih =>
    obtain ⟨j, e⟩ := x
    by_cases hj : j = i
    · subst hj
      cases hread : readOf e with
      | some d =>
        rw [pastOf_cons_self, lastRead_cons_of_some hread] at h
        cases h
        exact ⟨[], e, history, rfl, hread, fun x hx => nomatch hx⟩
      | none =>
        rw [pastOf_cons_self, lastRead_cons_of_none hread] at h
        obtain ⟨since, e', before, rfl, hread', hsince⟩ := ih h
        refine ⟨(j, e) :: since, e', before, rfl, hread', fun x hx hxj => ?_⟩
        rcases List.mem_cons.mp hx with rfl | hx
        · exact hread
        · exact hsince x hx hxj
    · rw [pastOf_cons_of_ne hj] at h
      obtain ⟨since, e', before, rfl, hread, hsince⟩ := ih h
      refine ⟨(j, e) :: since, e', before, rfl, hread, fun x hx hxi => ?_⟩
      rcases List.mem_cons.mp hx with rfl | hx
      · exact absurd hxi hj
      · exact hsince x hx hxi

/-! ## The rule for the questions -/

/--
The registry is only replaced by what was read last, with the node's address recorded or with
another holder of the lock. A decision only marks what was read last for the node, and only if that
is an address and not its own.
-/
def Careful (b : Bootstrap) (job : Job) (s : Step) (past : List (Exchange Step.Answer)) : Prop :=
  match s with
  | ⟨.store (.replace c), true⟩ => ∃ read, lastRead past = some read ∧
      c = read.recordAddress b.settings.podName b.settings.podIp
  | ⟨.store (.replace c), false⟩ => ∃ read holder, lastRead past = some read ∧
      c = read.lockFor holder
  | ⟨.overwrite path text, _⟩ => job.Decides → path = b.settings.replaceIpFile ∧ text ≠ "" ∧
      text ≠ b.settings.podIp ∧
      ∃ read, lastRead past = some read ∧ read.dataAt? b.settings.podName = some text
  | _ => True

variable {α : Type} {b : Bootstrap} {job : Job} {past past' : List (Exchange Step.Answer)}
  {recording : Bool}

theorem careful_of_isIdle {s : Step} (h : s.question.isIdle = true) : Careful b job s past := by
  obtain ⟨q, recording⟩ := s
  cases q <;> trivial

theorem onlyAsks_marked {may : Question → Prop} {p : Procedure α} (h : OnlyAsks may p) :
    OnlyAsks (fun s : Step => may s.question) (marked recording p) := by
  induction p with
  | done a => trivial
  | ask q next ih => exact ⟨h.1, fun x => ih x (h.2 x)⟩

theorem idles_sleep (span : Span) : Idles (sleep span) := idles_ask rfl

theorem obeys_of_idles {p : Procedure α} (h : Idles p) :
    Obeys (Careful b job) past (marked recording p) :=
  (onlyAsks_marked h).obeys (fun _ _ hs => careful_of_isIdle hs) past

/-- A part of a commit makes one edit of what it read last. -/
theorem obeys_of_oneEdit {may : ConfigMap → ConfigMap → Prop} {tells : Bool → α → Prop}
    {p : Registry.Procedure α} (h : OneEdit may tells (lastRead past) p)
    (hmay : ∀ {past read c}, lastRead past = some read → may read c →
      Careful b job ⟨.store (.replace c), recording⟩ past) :
    Obeys (Careful b job) past (marked recording (inStore p)) := by
  induction p generalizing past with
  | done a => trivial
  | ask q next ih =>
    cases q with
    | get name =>
      refine ⟨trivial, fun x => ih x ?_⟩
      rw [lastRead_call]
      exact h x
    | replace c =>
      obtain ⟨⟨read, hread, hedit⟩, hok, herror⟩ := h
      refine ⟨hmay hread hedit, fun x => ?_⟩
      cases x with
      | ok stored =>
        obtain ⟨a, ha, -⟩ := hok stored
        show Obeys (Careful b job) _ (marked recording (inStore (next (.ok stored))))
        rw [ha]
        trivial
      | error f =>
        refine ih (.error f) ?_
        rw [lastRead_call]
        exact herror f

theorem obeys_commitScript (b : Bootstrap) (past : List (Exchange Step.Answer)) :
    Obeys (Careful b job) past b.commitScript := by
  refine (obeys_of_oneEdit (Registry.oneEdit_acquire _ _ _) ?_).bind fun x past₁ _ => ?_
  · exact fun hread ⟨_, hedit⟩ => ⟨_, _, hread, hedit⟩
  cases x with
  | error f => trivial
  | ok guard =>
    refine (obeys_of_oneEdit (Registry.oneEdit_putAddress _ _ _ _) ?_).bind fun x past₂ _ => ?_
    · exact fun hread hedit => ⟨_, hread, hedit⟩
    refine (obeys_of_oneEdit (Registry.oneEdit_release _ _ _) ?_).bind fun _ _ _ => trivial
    exact fun hread ⟨_, hedit⟩ => ⟨_, _, hread, hedit⟩

theorem obeys_rejoinScript (b : Bootstrap) (timeout : Span)
    (past : List (Exchange Step.Answer)) :
    Obeys (Careful b (.rejoin timeout)) past (b.rejoinScript timeout) := by
  refine (obeys_of_idles (b.onlyAsks_comesUp timeout)).bind fun up past₁ _ => ?_
  cases up with
  | false => trivial
  | true =>
    have htries : Obeys (Careful b (.rejoin timeout)) past₁
        (b.policy.retry (fun span => marked false (sleep span)) b.commitScript) :=
      RetryPolicy.obeys_tryAgain (fun past => obeys_of_idles (idles_sleep _)) b.obeys_commitScript
        _ past₁
    refine htries.bind fun x past₂ _ => ?_
    cases x with
    | error f => trivial
    | ok u =>
      -- clearing the marker is no decision
      refine ⟨False.elim, fun x => ?_⟩
      rcases x with (root | text) | u <;> trivial

theorem obeys_writeMarker {c : ConfigMap} {text : String} (hread : lastRead past = some c)
    (haddress : c.dataAt? b.settings.podName = some text) (hempty : text ≠ "")
    (hown : text ≠ b.settings.podIp) :
    Obeys (Careful b job) past (marked false (b.writeMarker text)) := by
  refine ⟨fun _ => ⟨rfl, hempty, hown, c, hread, haddress⟩, fun x => ?_⟩
  rcases x with (root | text) | u <;> trivial

/-- What is idle reads nothing. -/
theorem lastRead_of_runs {p : Procedure α} (hp : Idles p) {a : α}
    (h : Runs Notes (marked false p) past a past') : lastRead past' = lastRead past := by
  refine (onlyAsks_marked hp).keeps (I := fun past' => lastRead past' = lastRead past)
    (fun s past₁ x past₂ hs hnotes hpast => ?_) h rfl
  rw [show past₂ = _ from hnotes, lastRead_cons_of_none, hpast]
  exact readOf_of_not_isCall (Question.not_isCall_of_isIdle hs) x

/-- An address that was looked up is what was read, and not empty. -/
theorem runs_addressOf {r : Registry} {pod address : String}
    (h : Runs Notes (marked false (inStore (r.addressOf pod))) past (.ok (some address)) past') :
    ∃ c, lastRead past' = some c ∧ c.dataAt? pod = some address ∧ address ≠ "" := by
  obtain ⟨x, past₁, hnotes, h⟩ := Plan.runs_ask.mp h
  cases x with
  | error f => cases (Plan.runs_done.mp h).1
  | ok c =>
    obtain ⟨hfound, rfl⟩ := Plan.runs_done.mp h
    have hfilter := Option.filter_eq_some_iff.mp (Except.ok.inj hfound).symm
    refine ⟨c, ?_, hfilter.1, fun hempty => ?_⟩
    · rw [show past' = _ from hnotes]
      exact lastRead_cons_of_some rfl past
    · rw [hempty] at hfilter
      cases hfilter.2

theorem obeys_markReplacement (b : Bootstrap) (past : List (Exchange Step.Answer)) :
    Obeys (Careful b job) past (marked false b.markReplacement) := by
  unfold markReplacement
  rw [marked_bind]
  have hlookup : Obeys (Careful b job) past
      (marked false (inStore (b.registry.addressOf b.settings.podName))) :=
    ⟨trivial, fun x => by cases x <;> trivial⟩
  refine hlookup.bind fun x past₁ hrun => ?_
  rcases x with f | found | oldIp
  · trivial
  · trivial
  obtain ⟨c, hread, haddress, hempty⟩ := runs_addressOf hrun
  dsimp only
  split
  · trivial
  rename_i hown
  rw [marked_bind]
  refine (obeys_of_idles (b.onlyAsks_findOldNode oldIp)).bind fun alive past₂ hfind => ?_
  rw [← lastRead_of_runs (b.onlyAsks_findOldNode oldIp) hfind] at hread
  cases alive with
  | true =>
    refine obeys_of_idles ?_
    exact (onlyAsks_shutDownOldNode oldIp).bind fun _ => trivial
  | false =>
    have hidles : Idles b.isBootstrapped := b.looksUp_isBootstrapped.mono fun q hq => hq ▸ rfl
    simp only [Bool.false_eq_true, if_false]
    rw [marked_bind]
    refine (obeys_of_idles hidles).bind fun bootstrapped past₃ hlook => ?_
    rw [← lastRead_of_runs hidles hlook] at hread
    cases bootstrapped with
    | true => trivial
    | false =>
      show Obeys (Careful b job) _ (marked false (b.writeMarker oldIp >>= _))
      rw [marked_bind]
      exact (obeys_writeMarker hread haddress hempty hown).bind fun x _ _ => by cases x <;> trivial

theorem obeys_script (b : Bootstrap) (job : Job) : Obeys (Careful b job) [] (job.script b) := by
  cases job with
  | decide =>
    show Obeys _ _ (marked false (b.markReplacement >>= _))
    rw [marked_bind]
    exact (b.obeys_markReplacement []).bind fun _ _ _ => trivial
  | prepare =>
    show Obeys _ _ (marked false (b.prepare >>= _))
    rw [marked_bind]
    have htries : Obeys (Careful b .prepare) [] (marked false b.prepare) := by
      unfold marked prepare RetryPolicy.retry
      rw [RetryPolicy.perform_tryAgain]
      exact RetryPolicy.obeys_tryAgain (fun past => obeys_of_idles (idles_sleep _))
        b.obeys_markReplacement _ []
    exact htries.bind fun _ _ _ => trivial
  | rejoin timeout =>
    exact (b.obeys_rejoinScript timeout []).bind fun _ _ _ => trivial

/-! ## What an answer means for the registry -/

/-- The store after an exchange: as it was, or with an edit of what was stored. -/
inductive Changes (b : Bootstrap) (s : Store) (e : Exchange Step.Answer) : Store → Prop where
  | nothing (h : records e = false) : Changes b s e s
  | locked {c : ConfigMap} {version : Nat} (holder : String) (hs : s.stored = some (c, version))
    (h : records e = false) :
    Changes b s e ⟨some ((c.atVersion version).lockFor holder, version + 1)⟩
  | recorded {c : ConfigMap} {version : Nat} (hs : s.stored = some (c, version))
    (h : records e = true) :
    Changes b s e ⟨some ((c.atVersion version).recordAddress b.settings.podName b.settings.podIp,
      version + 1)⟩

variable {s s' : Store} {e : Exchange Step.Answer} {call : Registry.Question}

theorem records_error (f : Fault) :
    records ⟨⟨.store call, recording⟩, (.error f : Registry.Answer call)⟩ = false := by
  cases call <;> cases recording <;> rfl

theorem readOf_error (f : Fault) :
    readOf ⟨⟨.store call, recording⟩, (.error f : Registry.Answer call)⟩ = none := by
  cases call <;> rfl

theorem records_of_not_isCall {s : Step} (h : s.question.isCall = false) (x : s.Answer) :
    records ⟨s, x⟩ = false := by
  obtain ⟨q, recording⟩ := s
  cases q <;> first | rfl | cases h

/-- A careful call that is answered makes such a change. -/
theorem changes_answer (h : Careful b job ⟨.store call, recording⟩ past)
    (hsnapshot : ∀ c, lastRead past = some c → Snapshot s c) :
    Changes b s ⟨⟨.store call, recording⟩, (s.answer call).1⟩ (s.answer call).2 := by
  cases call with
  | get name => exact .nothing (by cases recording <;> rfl)
  | replace c =>
    cases hreplace : s.replace c with
    | mk x s' =>
      show Changes b s ⟨⟨.store (.replace c), recording⟩, (s.replace c).1⟩ (s.replace c).2
      rw [hreplace]
      cases x with
      | error f =>
        obtain rfl := Store.replace_error hreplace
        exact .nothing (records_error f)
      | ok left =>
        cases recording with
        | true =>
          obtain ⟨read, hread, rfl⟩ := h
          have hversion : (read.recordAddress b.settings.podName
              b.settings.podIp).metadata.resourceVersion = read.metadata.resourceVersion := rfl
          obtain ⟨d, version, hs, rfl, -, rfl⟩ :=
            (hsnapshot read hread).replace_ok hversion hreplace
          exact .recorded hs rfl
        | false =>
          obtain ⟨read, holder, hread, rfl⟩ := h
          have hversion : (read.lockFor holder).metadata.resourceVersion =
              read.metadata.resourceVersion := rfl
          obtain ⟨d, version, hs, rfl, -, rfl⟩ :=
            (hsnapshot read hread).replace_ok hversion hreplace
          exact .locked holder hs rfl

theorem configMap?_of_readOf {c : ConfigMap}
    (h : readOf ⟨⟨.store call, recording⟩, (s.answer call).1⟩ = some c) :
    s.configMap? = some c := by
  cases call with
  | replace c' => cases h
  | get name =>
    change readOf ⟨⟨.store (.get name), recording⟩, s.get name⟩ = some c at h
    cases hget : s.get name with
    | error f =>
      rw [hget] at h
      cases h
    | ok d =>
      rw [hget] at h
      cases h
      obtain ⟨d, version, hs, rfl, -⟩ := Store.get_ok hget
      exact Store.configMap?_eq hs

theorem Changes.snapshot {c : ConfigMap} (h : Changes b s e s') (hc : Snapshot s c) :
    Snapshot s' c := by
  cases h with
  | nothing => exact hc
  | locked holder hs => exact hc.write hs
  | recorded hs => exact hc.write hs

/-! ## The invariant -/

variable {bs : ι → Bootstrap} {jobs : ι → Job} {first : Store} {w w' : World ι}

/-- The registry has the addresses that were recorded last. -/
def UpToDate (bs : ι → Bootstrap) (first : Store) (history : History ι) (c : ConfigMap) : Prop :=
  ∀ pod, pod ≠ writerKey → c.dataAt? pod = addressIn bs first pod history

/-- Each job goes on as its rule says. -/
theorem careful_of_reaches (hw : World.Reaches bs jobs first w) (i : ι) :
    Obeys (Careful (bs i) (jobs i)) (pastOf i w.history) (w.rest i) :=
  (obeys_script (bs i) (jobs i)).goes (World.goes_of_reaches hw i)

/-- And whatever it asked, it asked as its rule says. -/
theorem careful_asked (hw : World.Reaches bs jobs first w) {i : ι} {e : Exchange Step.Answer}
    {before : History ι} (h : (i, e) :: before <:+ w.history) :
    Careful (bs i) (jobs i) e.1 (pastOf i before) := by
  refine (obeys_script (bs i) (jobs i)).allowed (World.goes_of_reaches hw i) ?_
  rw [← pastOf_cons_self]
  exact (h.filter _).map _

/-- What a job read last is a snapshot, and the registry is up to date, and was when it was read. -/
structure Sound (bs : ι → Bootstrap) (first : Store) (w : World ι) : Prop where
  snapshots : ∀ i c, lastRead (pastOf i w.history) = some c → Snapshot w.store c
  stored : ∀ c, w.store.configMap? = some c → UpToDate bs first w.history c
  read : ∀ i e before c, (i, e) :: before <:+ w.history → readOf e = some c →
    UpToDate bs first before c

omit [DecidableEq ι] in
theorem addressIn_of_not_records {i : ι} {history : History ι} {pod : String}
    (h : records e = false) :
    addressIn bs first pod ((i, e) :: history) = addressIn bs first pod history :=
  if_neg fun hrecorded => Bool.false_ne_true (h.symm.trans hrecorded.2)

omit [DecidableEq ι] in
theorem Changes.upToDate {i : ι} {history : History ι} (h : Changes (bs i) s e s')
    (hs : ∀ c, s.configMap? = some c → UpToDate bs first history c) {c : ConfigMap}
    (hc : s'.configMap? = some c) : UpToDate bs first ((i, e) :: history) c := by
  intro pod hpod
  cases h with
  | nothing hrecords => rw [addressIn_of_not_records hrecords, hs c hc pod hpod]
  | locked holder hstored hrecords =>
    rw [addressIn_of_not_records hrecords, ← hs _ (Store.configMap?_eq hstored) pod hpod]
    cases hc
    rfl
  | recorded hstored hrecords =>
    cases hc
    show (ConfigMap.recordAddress _ _ _).dataAt? pod = _
    unfold addressIn
    by_cases hown : (bs i).settings.podName = pod
    · rw [if_pos ⟨hown, hrecords⟩, hown, ConfigMap.dataAt?_recordAddress_self _ hpod]
    · rw [if_neg fun h => hown h.1, ConfigMap.dataAt?_recordAddress _ hown hpod.symm]
      exact hs _ (Store.configMap?_eq hstored) pod hpod

/-- The invariant is kept when a job is answered. -/
theorem Sound.hear (h : Sound bs first w) {i : ι} {q : Step} {rest : Script Unit} {x : q.Answer}
    {store : Store} (hread : ∀ c, readOf ⟨q, x⟩ = some c → w.store.configMap? = some c)
    (hchanges : Changes (bs i) w.store ⟨q, x⟩ store) :
    Sound bs first (w.hear i q x rest store) := by
  refine ⟨fun j c hc => ?_, fun c hc => hchanges.upToDate h.stored hc,
    fun j e before c hsuffix hc => ?_⟩
  · refine hchanges.snapshot ?_
    rcases lastRead_pastOf_cons hc with hnew | hold
    · obtain ⟨p, hp, rfl⟩ := Option.map_eq_some_iff.mp (hread c hnew)
      exact snapshot_of_stored hp
    · exact h.snapshots j c hold
  · rcases List.suffix_cons_iff.mp hsuffix with heq | hold
    · cases heq
      exact h.stored c (hread c hc)
    · exact h.read j e before c hold hc

theorem Sound.becomes (h : Sound bs first w)
    (hcareful : ∀ i, Obeys (Careful (bs i) (jobs i)) (pastOf i w.history) (w.rest i))
    (hw : w.Becomes w') : Sound bs first w' := by
  cases hw with
  | answered i hrest =>
    have hnext := hcareful i
    rw [hrest] at hnext
    exact h.hear (fun c => configMap?_of_readOf) (changes_answer hnext.1 (h.snapshots i))
  | failed i hrest f =>
    refine h.hear (fun c hc => ?_) (.nothing (records_error f))
    rw [readOf_error] at hc
    cases hc
  | elsewhere i hrest hs x =>
    refine h.hear (fun c hc => ?_) (.nothing (records_of_not_isCall hs x))
    rw [readOf_of_not_isCall hs] at hc
    cases hc
  | edited e hdata hstored =>
    refine ⟨fun i c hc => (h.snapshots i c hc).write hstored, fun c hc pod hpod => ?_, h.read⟩
    rw [← h.stored _ (Store.configMap?_eq hstored) pod hpod]
    cases hc
    show (e.data _).bind _ = _
    rw [hdata]
    rfl
  | deleted => exact ⟨fun i c hc => (h.snapshots i c hc).delete, fun c hc => (nomatch hc), h.read⟩

theorem sound_of_reaches (hw : World.Reaches bs jobs first w) : Sound bs first w := by
  induction hw with
  | refl =>
    refine ⟨fun i c hc => (nomatch hc), fun c hc pod _ => ?_, fun i e before c h => ?_⟩
    · show _ = first.configMap?.bind _
      rw [show first.configMap? = some c from hc]
      rfl
    · cases List.suffix_nil.mp h
  | tail hw hstep ih => exact ih.becomes (careful_of_reaches hw) hstep

/--
**A node only replaces its own last address.** Whatever jobs any number of nodes do in any number of
lives, and whatever they are answered: where a decision marks an address, it writes it to its
marker; the address is neither empty nor the node's own; and it is the one that had been recorded
last for its pod when the decision read the registry, or else the entry at first.
-/
theorem marks_last_address (bs : ι → Bootstrap) (jobs : ι → Job) (first : Store)
    (hw : World.Reaches bs jobs first w) {i : ι} (hpod : (bs i).settings.podName ≠ writerKey)
    (hjob : (jobs i).Decides) {path text : String} {x : Except WriteFailure Unit}
    {earlier : History ι}
    (hmark : (i, ⟨⟨.overwrite path text, recording⟩, x⟩) :: earlier <:+ w.history) :
    path = (bs i).settings.replaceIpFile ∧ text ≠ "" ∧ text ≠ (bs i).settings.podIp ∧
      ∃ since e before, earlier = since ++ (i, e) :: before ∧ (readOf e).isSome = true ∧
        (∀ later ∈ since, later.1 = i → readOf later.2 = none) ∧
        addressIn bs first (bs i).settings.podName before = some text := by
  have h := sound_of_reaches hw
  obtain ⟨hpath, hempty, hown, c, hlast, haddress⟩ := careful_asked hw hmark hjob
  obtain ⟨since, e, before, rfl, hread, hsince⟩ := exists_read hlast
  refine ⟨hpath, hempty, hown, since, e, before, rfl, by rw [hread]; rfl, hsince, ?_⟩
  have hbefore : (i, e) :: before <:+ w.history :=
    ((List.suffix_append since _).trans (List.suffix_cons _ _)).trans hmark
  rw [← h.read i e before c hbefore hread _ hpod]
  exact haddress

/-! ## A node that is restarted -/

/-- The first life of a node, and the second one under another address. -/
def lives : Bool → Bootstrap
  | false => { joining with settings := { joining.settings with podIp := "10.0.0.6" } }
  | true => joining

def tasks : Bool → Job
  | false => .rejoin .zero
  | true => .decide

def ownReport : String := "Datacenter: dc1\nUN  10.0.0.6  1 KiB  1  1%  a  r"

def restartAnswer : (q : Question) → Option (Answer q)
  | .lookUp _ => some .absent
  | .overwrite .. => some (.ok ())
  | _ => none

/-- A node that is up by the answer to its first poll goes on to settle. -/
theorem exists_script_eq (timeout : Span) {output : Attempt String}
    (hinterval : b.pollInterval.nanos ≠ 0) (hup : b.isUpBy output = true) :
    ∃ next, (Job.rejoin timeout).script b = .ask ⟨.ownStatus timeout, false⟩ next ∧
      ∀ after, next (.finished after output) = b.settleScript >>= fun _ => pure () := by
  show ∃ next, b.rejoinScript timeout >>= (fun _ => pure ()) = _ ∧ _
  unfold rejoinScript
  rw [comesUp_eq hinterval]
  refine ⟨_, rfl, fun after => ?_⟩
  show ((marked false (if b.isUpBy output = true then .done true else _)).bind _).bind _ = _
  rw [if_pos hup]
  rfl

/-- The first life has come up. -/
def cameUp : World Bool :=
  (World.fresh lives tasks beforeJoining.store).hear false ⟨.ownStatus .zero, false⟩
    (.finished .zero (.ok ownReport)) ((lives false).settleScript >>= fun _ => pure ())
    beforeJoining.store

theorem reaches_cameUp : World.Reaches lives tasks beforeJoining.store cameUp := by
  have hup : (lives false).isUpBy (.ok ownReport) = true := by decide +kernel
  obtain ⟨next, hrest, hnext⟩ := exists_script_eq .zero (by decide) hup
  have hstep := World.Becomes.elsewhere (w := World.fresh lives tasks beforeJoining.store) false
    hrest rfl (.finished .zero (.ok ownReport))
  rw [hnext] at hstep
  exact .single hstep

/-- It commits its address and clears the marker; then the node is restarted, finds its entry and no
data, and is told to replace itself. -/
def restarted : World Bool :=
  cameUp.run restartAnswer (List.replicate 7 false ++ List.replicate 3 true)

theorem marks_last_address_restarted :
    (lives true).settings.podName ≠ writerKey ∧ (tasks true).Decides ∧ ∃ earlier,
      restarted.history = (true, ⟨⟨.overwrite "replace.ip" "10.0.0.6", false⟩, .ok ()⟩) :: earlier ∧
      ∃ since e before, earlier = since ++ (true, e) :: before ∧
        addressIn lives beforeJoining.store "node-0" before = some "10.0.0.6" := by
  have hpod : (lives true).settings.podName ≠ writerKey := by decide
  have hreached : World.Reaches lives tasks beforeJoining.store restarted :=
    reaches_cameUp.run restartAnswer _
  have hhistory : restarted.history =
      (true, ⟨⟨.overwrite "replace.ip" "10.0.0.6", false⟩, .ok ()⟩) :: restarted.history.tail := rfl
  obtain ⟨-, -, -, since, e, before, hearlier, -, -, haddress⟩ :=
    marks_last_address lives tasks beforeJoining.store hreached hpod trivial
      ⟨[], hhistory.symm⟩
  exact ⟨hpod, trivial, _, hhistory, since, e, before, hearlier, haddress⟩

end RingKeeper.Bootstrap
