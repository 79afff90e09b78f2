import RingKeeper.Program.Bootstrap
import RingKeeper.Program.Recovery
import RingKeeper.Settings.Block

/-!
# The command line

The first argument names the program, `recovery` or `bootstrap`, and the others are its own. The
machine that the programs run on here has files, a clock and a terminal. It knows of no cluster, so
a program ends where it needs one.
-/

namespace RingKeeper.CommandLine

open Program (Question Answer Procedure Message Level)

def levelText : Level → String
  | .info => "INFO"
  | .error => "ERROR"

/-- The failure of a question that takes a network or another process. -/
def outOfReach : String := "not available on this machine"

/-- What looking at the path tells. What may not be opened is there if the way to it is known. -/
def lookUp (path : String) : IO Bootstrap.Lookup := do
  try
    let _ ← IO.FS.Handle.mk path .read
    return .present
  catch
  | .noFileOrDirectory .. => return .absent
  | e =>
    try
      let _ ← IO.FS.realPath path
      return .present
    catch _ => return .unknown (toString e)

def overwrite (path text : String) : IO (Except Bootstrap.WriteFailure Unit) := do
  try
    IO.FS.writeFile path text
    return .ok ()
  catch e => return .error (.unopened (toString e))

/-- Answers a question about the machine for the administration tool, which cannot be run. -/
def answerTool : (q : Admin.Tool.Question) → IO (Admin.Tool.Answer q)
  | .isFile _ => return false
  | .readText _ => return .error outOfReach
  | .makeTemporary _ => return .error (.uncreated outOfReach)
  | .removeTemporary _ => return ()
  | .execute .. => return .error outOfReach
  | .executeWithin .. => return .finished .zero (.error outOfReach)

def answer : (q : Question) → IO (Answer q)
  | .makeClient => return .error outOfReach
  | .request _ => return .broken outOfReach
  | .tool q => answerTool q
  | .lookUp path => lookUp path
  | .overwrite path text => overwrite path text
  | .sleep span => IO.sleep span.millis.toUInt32
  | .halt => throw (.userError "gave up")
  | .supervise _ => return ()
  | .say message => IO.eprintln s!"{levelText message.level} {message.text}"

/-- The environment of this process. -/
def environment : IO Environment := do
  return Environment.ofBlock (← IO.FS.readBinFile "/proc/self/environ").toList

/-- The program that the arguments name. -/
def program (arguments : List String) (env : Environment) : Procedure UInt32 :=
  match arguments with
  | "recovery" :: _ => Program.recovery env
  | "bootstrap" :: rest => Program.bootstrap rest env
  | rest => Program.bootstrap rest env

end RingKeeper.CommandLine

def main (arguments : List String) : IO UInt32 := do
  let program := RingKeeper.CommandLine.program arguments (← RingKeeper.CommandLine.environment)
  program.perform RingKeeper.CommandLine.answer
