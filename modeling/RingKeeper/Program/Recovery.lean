import RingKeeper.Program.Basic

/-!
# The recovery program

The program runs the recovery controller until it is told to stop. It takes no arguments.
-/

namespace RingKeeper.Program

/-- The work of the program. -/
def recoveryWork (log : Logger) (env : Environment) : Procedure (Attempt Unit) := do
  match RecoverySettings.ofEnvironment env with
  | .error p => return .error (.ofKind (.environment p))
  | .ok settings =>
    match ← makeClient with
    | .error f => return .error f
    | .ok () =>
      say log .info "pod recovery controller started"
      ask (.supervise settings)
      say log .info "pod recovery controller stopped"
      return .ok ()

/-- The program, which ends in its exit code. -/
def recovery (env : Environment) : Procedure UInt32 :=
  let log := Logger.ofEnvironment "cassandra_recovery" env
  exitCode log (recoveryWork log env)

end RingKeeper.Program
