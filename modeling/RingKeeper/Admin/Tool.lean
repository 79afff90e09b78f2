import RingKeeper.Admin.Client
import RingKeeper.Plan
import RingKeeper.Settings.Bootstrap
import RingKeeper.Text.Utf8

/-!
# The administration tool

Commands are run by an executable. The arguments in front of a command say which node it is for and
how to get there; for the node beside this program there is nothing to say. A user name and a
password are handed over to a remote node if both are there to be read: the name as an argument,
both together in a file that lasts as long as the connection.
-/

namespace RingKeeper.Admin

/-- A run of the executable that came to its end. -/
structure Finished where
  stdout : List UInt8
  stderr : List UInt8
  succeeded : Bool
deriving DecidableEq, Repr

/-- What a run printed: its output and then its warnings, each decoded by itself. -/
def Finished.text (r : Finished) : String := Text.decode r.stdout ++ Text.decode r.stderr

/-- The answer to a command, by the run of the executable or by what kept it from running. -/
def answerOf (executable command : String) : Except String Finished → Attempt String
  | .error root => .error (.causedBy (.commandFailed command s!"could not run {executable}") root)
  | .ok r => if r.succeeded then .ok r.text else .error (.ofKind (.commandFailed command r.text))

structure Endpoint where
  host : String
  port : Nat
deriving DecidableEq, Repr

def Endpoint.arguments (e : Endpoint) : List String :=
  ["--host", e.host, "--port", toString e.port]

structure Credentials where
  username : String
  /-- The path of the file that holds the user name, a space and the password. -/
  passwordFile : String
deriving DecidableEq, Repr

def Credentials.arguments (c : Credentials) : List String :=
  ["--username", c.username, "--password-file", c.passwordFile]

/-- The executable, set up for one node. -/
structure Tool where
  executable : String
  useSsl : Bool
  /-- The remote node, if it is not the one beside this program. -/
  endpoint : Option Endpoint := none
  credentials : Option Credentials := none
deriving DecidableEq, Repr

namespace Tool

/-- The arguments that a command is run with. -/
def arguments (t : Tool) (command : String) : List String :=
  t.endpoint.elim [] Endpoint.arguments
    ++ t.credentials.elim [] Credentials.arguments
    ++ (if t.useSsl then ["--ssl"] else [])
    ++ [command]

/-- How making a temporary file fails: there is none, or it cannot be written. -/
inductive TemporaryFailure where
  | uncreated (text : String)
  | unwritten (text : String)
deriving DecidableEq, Repr

/-- What the tool asks of the machine that it runs on. -/
inductive Question where
  | isFile (path : String)
  | readText (path : String)
  /-- Makes a temporary file with this content. -/
  | makeTemporary (content : String)
  | removeTemporary (path : String)
  | execute (executable : String) (arguments : List String)
  /-- Runs the executable, and waits for it no longer than this. -/
  | executeWithin (limit : Span) (executable : String) (arguments : List String)
deriving DecidableEq, Repr

@[reducible] def Answer : Question → Type
  | .isFile _ => Bool
  | .readText _ => Except String String
  | .makeTemporary _ => Except TemporaryFailure String
  | .removeTemporary _ => Unit
  | .execute .. => Except String Finished
  | .executeWithin .. => Timed (Except String Finished)

abbrev Procedure (α : Type) : Type := Plan Question Answer α

def ask (q : Question) : Procedure (Answer q) := Plan.request q

/-- The text of a file without the blanks around it. -/
def readTrimmed (path what : String) : Procedure (Attempt String) := do
  match ← ask (.readText path) with
  | .ok text => return .ok (String.ofList (Text.trim text.toList))
  | .error root => return .error (.causedBy (.message s!"failed to read {what} file {path}") root)

/-- Puts the user name and the password into a file of their own. -/
def storeCredentials (username password : String) : Procedure (Attempt Credentials) := do
  match ← ask (.makeTemporary s!"{username} {password}") with
  | .ok passwordFile => return .ok { username, passwordFile }
  | .error (.uncreated root) =>
    return .error (.causedBy (.message "failed to create temp password file") root)
  | .error (.unwritten root) =>
    return .error (.causedBy (.message "failed to write temp password file") root)

/-- The credentials of the two files; none, if either is not there. -/
def loadCredentials (usernameFile passwordFile : String) :
    Procedure (Attempt (Option Credentials)) := do
  if !(← ask (.isFile usernameFile)) then return .ok none
  else if !(← ask (.isFile passwordFile)) then return .ok none
  else
    match ← readTrimmed usernameFile "user" with
    | .error f => return .error f
    | .ok username =>
      match ← readTrimmed passwordFile "password" with
      | .error f => return .error f
      | .ok password =>
        match ← storeCredentials username password with
        | .error f => return .error f
        | .ok credentials => return .ok (some credentials)

/-- The tool for the node beside this program. -/
def own (s : BootstrapSettings) : Tool := { executable := s.toolPath, useSsl := s.useSsl }

/-- The tool for the node at an address. -/
def peer (s : BootstrapSettings) (host : String) : Procedure (Attempt Tool) := do
  match ← loadCredentials s.usernameFile s.passwordFile with
  | .error f => return .error f
  | .ok credentials =>
    return .ok { own s with endpoint := some { host, port := s.jmxPort }, credentials }

/-- Runs a command. -/
def run (t : Tool) (command : String) : Procedure (Attempt String) := do
  return answerOf t.executable command (← ask (.execute t.executable (t.arguments command)))

/-- Runs a command that is not waited for any longer than this. -/
def runWithin (t : Tool) (limit : Span) (command : String) :
    Procedure (Timed (Attempt String)) := do
  return (← ask (.executeWithin limit t.executable (t.arguments command))).map
    (answerOf t.executable command)

/-- Lets go of the password file. -/
def close (t : Tool) : Procedure Unit := do
  match t.credentials with
  | some c => ask (.removeTemporary c.passwordFile)
  | none => return ()

end Tool

end RingKeeper.Admin
