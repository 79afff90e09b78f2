import RingKeeper.Admin.Client
import RingKeeper.Registry.Basic
import RingKeeper.Retry
import RingKeeper.Settings.Bootstrap

/-!
# Bootstrap of a node

A restarting node learns from the registry whether it has to replace its own earlier self, and
commits its new address once it is back in the ring. What it asks of its surroundings on the way:
calls to the registry's store, commands to nodes, two accesses to files, and the passing of time.
Each of them can fail in its own ways.
-/

namespace RingKeeper

namespace Bootstrap

/-- How writing a file fails: it cannot be opened, and is as it was, or it cannot be written. -/
inductive WriteFailure where
  | unopened (text : String)
  | unwritten (text : String)
deriving DecidableEq, Repr

/-- What looking at a path tells: that something is there, that nothing is, or why neither can be
told. -/
inductive Lookup where
  | present
  | absent
  | unknown (text : String)
deriving DecidableEq, Repr

inductive Question where
  | store (call : Registry.Question)
  /-- Sets up the administration of the node at an address. -/
  | connect (host : String)
  | command (target : Admin.Target) (name : String)
  /-- A command whose answer is waited for no longer than this. -/
  | commandWithin (limit : Span) (target : Admin.Target) (name : String)
  | lookUp (path : String)
  /-- Makes the text the whole content of the file. -/
  | overwrite (path text : String)
  | sleep (span : Span)
  /-- Gives up for good; nothing is answered. -/
  | halt
deriving DecidableEq, Repr

@[reducible] def Answer : Question → Type
  | .store call => Registry.Answer call
  | .connect _ => Attempt Unit
  | .command .. => Attempt String
  | .commandWithin .. => Timed (Attempt String)
  | .lookUp _ => Lookup
  | .overwrite .. => Except WriteFailure Unit
  | .sleep _ => Unit
  | .halt => Empty

abbrev Procedure (α : Type) : Type := Plan Question Answer α

def ask (q : Question) : Procedure (Answer q) := Plan.request q

/-- A procedure of the registry as part of the bootstrap. -/
def inStore {α : Type} (p : Registry.Procedure α) : Procedure α :=
  p.perform fun call => ask (.store call)

def sleep (span : Span) : Procedure Unit := ask (.sleep span)

end Bootstrap

/-- A node's bootstrap: its settings, and how it retries and polls. -/
structure Bootstrap where
  settings : BootstrapSettings
  policy : RetryPolicy := .standard
  pollInterval : Span := .ofSeconds 10
deriving DecidableEq, Repr

namespace Bootstrap

def registry (b : Bootstrap) : Registry := ⟨b.settings.registryName⟩

/-- Makes the text the content of the replace marker. -/
def writeMarker (b : Bootstrap) (text : String) : Procedure (Attempt Unit) := do
  let path := b.settings.replaceIpFile
  match ← ask (.overwrite path text) with
  | .ok () => return .ok ()
  | .error (.unopened root) => return .error (.causedBy (.message s!"failed to open {path}") root)
  | .error (.unwritten text) => return .error (.ofKind (.io text))

end Bootstrap

end RingKeeper
