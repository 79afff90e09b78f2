import RingKeeper.Recovery.Controller
import RingKeeper.Recovery.Remote
import RingKeeper.Rehearsal.Server

/-!
# Rehearsing the controller

One day of the controller against a scripted API. It hears of the pods that exist at the start and
then of each change as it comes. The clock stands still while a pod is looked at and moves on to the
next try.
-/

namespace RingKeeper.Rehearsal

open Recovery

/-- News of a pod at a point in time; a pod that was deleted needs no look. -/
structure News where
  time : Span
  pod : Metadata
  deleted : Bool := false

namespace News

/-- Whether both are about one pod at one time. -/
def coincides (a b : News) : Bool :=
  decide (a.time = b.time) && decide (a.pod.namespaceOrEmpty = b.pod.namespaceOrEmpty)
    && decide (a.pod.name = b.pod.name)

/-- The news in the order in which they arrive: none of them before the news ahead of it. -/
def arrive (now : Span) : List News → List News
  | [] => []
  | n :: ns =>
    let time : Span := ⟨max now.nanos n.time.nanos⟩
    { n with time } :: arrive time ns

/-- Of the news of one pod at one time, only the last counts. -/
def settle : List News → List News
  | [] => []
  | n :: ns => if ns.any n.coincides then settle ns else n :: settle ns

end News

/-- A request for the list of pods. -/
structure Listing where
  path : String
  labelSelector : Option String
deriving DecidableEq, Repr

structure ControllerRun where
  server : Server
  backoff : Backoff := .standard
  clock : Span := .zero

namespace ControllerRun

/-- How long the rehearsal goes on. -/
def day : Span := .ofSeconds 86400

/-- Looks at a pod once. -/
def look (settings : RecoverySettings) (inNamespace name : String) (r : ControllerRun) :
    Option Action × ControllerRun :=
  let (outcome, server) :=
    r.server.run (remote (recover settings.evictionLabel inNamespace name))
  match afterRecovery settings.maxRetries r.backoff .zero .none (podKey inNamespace name)
    outcome with
  | some (action, backoff) => (some action, { r with server, backoff })
  | none => (none, { r with server })

/-- Looks at a pod, and up to `more` times again, until it needs no other look. -/
def lookAgain (settings : RecoverySettings) (inNamespace name : String) :
    (more : Nat) → ControllerRun → ControllerRun
  | 0, r => (r.look settings inNamespace name).2
  | more + 1, r =>
    match r.look settings inNamespace name with
    | (some (.requeue delay), r) =>
      let clock := r.clock + delay
      if clock.nanos < day.nanos then
        lookAgain settings inNamespace name more { r with clock }
      else r
    | (_, r) => r

/-- Hears of a pod; there is no way to go on from a pod without a name. -/
def hear (settings : RecoverySettings) (r : ControllerRun) (news : News) : Option ControllerRun :=
  match news.pod.name with
  | none => none
  | some name =>
    if news.deleted then some r
    else
      some (lookAgain settings news.pod.namespaceOrEmpty name settings.maxRetries
        { r with clock := ⟨max r.clock.nanos news.time.nanos⟩ })

/-- Hears of a pod that was there from the start. -/
def hearFirst (settings : RecoverySettings) (r : ControllerRun) (news : News) :
    Option ControllerRun :=
  (hear settings r news).map fun r => { r with clock := .zero }

/--
Lists the pods and hears of them, and then of the changes of the day. Without a path that can be sent
nothing is ever heard of.
-/
def watch (settings : RecoverySettings) (r : ControllerRun) (pods : List Metadata)
    (changes : List News) : Option (List Listing × ControllerRun) :=
  match Kube.sentPath? (watchedPath settings) with
  | none => some ([], r)
  | some path => do
    let known := pods.map fun pod => { time := .zero, pod : News }
    let r ← (News.settle known).foldlM (hearFirst settings) r
    let today := (News.arrive .zero changes).filter fun news => decide (news.time.nanos < day.nanos)
    let r ← (News.settle today).foldlM (hear settings) r
    some ([{ path, labelSelector := settings.labelSelector }], r)

end ControllerRun

end RingKeeper.Rehearsal
