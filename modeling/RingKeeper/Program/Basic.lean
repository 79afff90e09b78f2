import RingKeeper.Admin.Tool
import RingKeeper.Bootstrap.Basic
import RingKeeper.Kube.Exchange
import RingKeeper.Program.Logging
import RingKeeper.Settings.Recovery

/-!
# Programs

A program reads its arguments and its environment, gets itself a client for the cluster, and does
its work. It tells its user what came of it in one message, and by its exit code.
-/

namespace RingKeeper.Program

/-- What a program asks of the machine that it runs on. -/
inductive Question where
  /-- Makes a client for the cluster from what the machine knows about it. -/
  | makeClient
  | request (r : Kube.Request)
  | tool (q : Admin.Tool.Question)
  | lookUp (path : String)
  | overwrite (path text : String)
  | sleep (span : Span)
  | halt
  /-- Runs the recovery controller until it is told to stop. -/
  | supervise (settings : RecoverySettings)
  | say (message : Message)

@[reducible] def Answer : Question → Type
  | .makeClient => Except String Unit
  | .request _ => Kube.Reply
  | .tool q => Admin.Tool.Answer q
  | .lookUp _ => Bootstrap.Lookup
  | .overwrite .. => Except Bootstrap.WriteFailure Unit
  | .sleep _ => Unit
  | .halt => Empty
  | .supervise _ => Unit
  | .say _ => Unit

abbrev Procedure (α : Type) : Type := Plan Question Answer α

def ask (q : Question) : Procedure (Answer q) := Plan.request q

/-- Tells a message, if it is shown. -/
def say (log : Logger) (level : Level) (text : String) : Procedure Unit :=
  if log.shows ⟨level, text⟩ then ask (.say ⟨level, text⟩) else return ()

def inApi {α : Type} (p : Kube.Procedure α) : Procedure α := p.perform fun r => ask (.request r)

def inTool {α : Type} (p : Admin.Tool.Procedure α) : Procedure α := p.perform fun q => ask (.tool q)

/-- Makes a client, without which a program cannot begin. -/
def makeClient : Procedure (Attempt Unit) := do
  match ← ask .makeClient with
  | .ok () => return .ok ()
  | .error root => return .error (.causedBy (.message "failed to create kubernetes client") root)

/-- The exit code of a program, after its failure has been told. -/
def exitCode (log : Logger) (p : Procedure (Attempt Unit)) : Procedure UInt32 := do
  match ← p with
  | .ok () => return 0
  | .error f =>
    say log .error f.report
    return 1

end RingKeeper.Program
