import RingKeeper.Bootstrap.Rejoin
import RingKeeper.Bootstrap.Replace
import RingKeeper.Program.Basic
import RingKeeper.Registry.Remote

/-!
# The bootstrap program

Run before the node starts, the program decides whether the node replaces its earlier self; run
beside the node, it waits for the node to rejoin the ring. The first argument says which.
-/

namespace RingKeeper.Program

inductive Mode where
  | init
  | wait
deriving DecidableEq, Repr

/-- The mode that an argument asks for. Without an argument there is none. -/
def Mode.ofArgument? : Option String → Attempt Mode
  | some "init" => .ok .init
  | some "wait" => .ok .wait
  | other => .error (.ofKind (.usage (other.getD "")))

/-- The bootstrap on a machine. The tool for the remote node that was connected last is at hand. -/
abbrev Connected (α : Type) : Type := StateT (Option Admin.Tool) Procedure α

/-- Lets go of the tool for the node that was connected last. -/
def disconnect : Connected Unit := do
  if let some tool ← get then inTool tool.close
  set (none : Option Admin.Tool)

/-- Answers a question of the bootstrap. -/
def answerBootstrap (settings : BootstrapSettings) :
    (q : Bootstrap.Question) → Connected (Bootstrap.Answer q)
  | .store call => inApi (Registry.remoteAnswer settings.podNamespace call)
  | .connect host => do
    disconnect
    match ← inTool (Admin.Tool.peer settings host) with
    | .ok tool =>
      set (some tool)
      return .ok ()
    | .error f => return .error f
  | .command .own name => inTool ((Admin.Tool.own settings).run name)
  | .command (.peer _) name => do
    match ← get with
    | some tool => inTool (tool.run name)
    | none => return .error (.ofKind (.commandFailed name "not connected"))
  | .commandWithin limit .own name => inTool ((Admin.Tool.own settings).runWithin limit name)
  | .commandWithin limit (.peer _) name => do
    match ← get with
    | some tool => inTool (tool.runWithin limit name)
    | none => return .finished .zero (.error (.ofKind (.commandFailed name "not connected")))
  | .lookUp path => ask (.lookUp path)
  | .overwrite path text => ask (.overwrite path text)
  | .sleep span => ask (.sleep span)
  | .halt => ask .halt

/-- A procedure of the bootstrap on a machine. -/
def inBootstrap {α : Type} (settings : BootstrapSettings) (p : Bootstrap.Procedure α) :
    Procedure α := do
  let (a, _) ← (do
    let a ← (p.perform (answerBootstrap settings) : Connected α)
    disconnect
    return a : Connected α).run none
  return a

/-- Does the work of a mode. -/
def runMode (log : Logger) (settings : BootstrapSettings) (mode : Mode) :
    Procedure (Attempt Unit) := do
  let b : Bootstrap := { settings }
  match mode with
  | .init =>
    match ← inBootstrap settings b.prepare with
    | .error f => return .error f
    | .ok replacing =>
      say log .info s!"bootstrap init done, replacing: {replacing}"
      return .ok ()
  | .wait =>
    match ← inBootstrap settings b.rejoin with
    | .error f => return .error f
    | .ok () =>
      say log .info "bootstrap wait done"
      return .ok ()

/-- The work of the program. What is wrong with the arguments counts first, then the environment. -/
def bootstrapWork (log : Logger) (arguments : List String) (env : Environment) :
    Procedure (Attempt Unit) := do
  match Mode.ofArgument? arguments.head? with
  | .error f => return .error f
  | .ok mode =>
    match BootstrapSettings.ofEnvironment env with
    | .error p => return .error (.ofKind (.environment p))
    | .ok settings =>
      match ← makeClient with
      | .error f => return .error f
      | .ok () => runMode log settings mode

/-- The program, which ends in its exit code. -/
def bootstrap (arguments : List String) (env : Environment) : Procedure UInt32 :=
  let log := Logger.ofEnvironment "cassandra_bootstrap" env
  exitCode log (bootstrapWork log arguments env)

end RingKeeper.Program
