import RingKeeper.Admin.Tool
import RingKeeper.Rehearsal.Files

/-!
# Rehearsing the administration tool

A machine with a working directory and one executable, whose output to each command is fixed in
advance. It keeps a record of the arguments that the executable was run with, and of the password
that was handed over. Temporary files, if there can be any, all go to one place.
-/

namespace RingKeeper.Rehearsal

open Admin.Tool (Question Answer Procedure)

/-- What the executable prints for a command, and how it ends. -/
structure ToolScript where
  stdout : List UInt8 := []
  stderr : List UInt8 := []
  code : Nat := 0
deriving DecidableEq, Repr

/-- One run of the executable. -/
structure Invocation where
  arguments : List String
  /-- The content of the password file. -/
  password : Option String
deriving DecidableEq, Repr

structure Machine where
  files : Files := .fresh
  scripts : Table String ToolScript := ∅
  /-- Whether temporary files can be made. -/
  hasTemporary : Bool := true
  /-- The content of the temporary file, while there is one. -/
  temporary : Option String := none
  /-- The runs of the executable, latest first. -/
  invocations : List Invocation := []

namespace Machine

/-- The only path that leads to the executable. -/
def executable : String := "./nodetool"

/-- The place for temporary files. -/
def temporaryPath : String := "<password-file>"

/-- The argument behind the last option of this name. -/
def optionValue? (name : String) : List String → Option String
  | [] => none
  | [_] => none
  | option :: value :: rest =>
    match optionValue? name (value :: rest) with
    | some found => some found
    | none => if option = name then some value else none

/-- The record of a run with these arguments. -/
def invocation (m : Machine) (arguments : List String) : Invocation :=
  { arguments
    password := do
      let path ← optionValue? "--password-file" arguments
      if path = temporaryPath then m.temporary else m.files.text? path }

/-- Arguments end at a NUL character, so none may hold one. -/
def canPass (argument : String) : Bool := !argument.toList.contains '\x00'

/-- Runs the executable, which goes by the last argument. -/
def execute (m : Machine) (path : String) (arguments : List String) :
    Except String Admin.Finished × Machine :=
  if path = executable && arguments.all canPass then
    let script := (m.scripts.get? (arguments.getLast?.getD "")).getD {}
    (.ok ⟨script.stdout, script.stderr, decide (script.code = 0)⟩,
      { m with invocations := m.invocation arguments :: m.invocations })
  else (.error "it cannot be executed", m)

def answer (m : Machine) : (q : Question) → Answer q × Machine
  | .isFile path => (m.files.isFile path, m)
  | .readText path =>
    match m.files.text? path with
    | some text => (.ok text, m)
    | none => (.error "it is not a text", m)
  | .makeTemporary content =>
    if m.hasTemporary then (.ok temporaryPath, { m with temporary := some content })
    else (.error (.uncreated "there is no place for it"), m)
  | .removeTemporary _ => ((), { m with temporary := none })
  | .execute path arguments => m.execute path arguments
  | .executeWithin _ path arguments =>
    let (a, m) := m.execute path arguments
    (.finished .zero a, m)

def run {α : Type} (m : Machine) (p : Procedure α) : α × Machine :=
  (show StateM Machine α from p.perform fun q m => m.answer q).run m

end Machine

end RingKeeper.Rehearsal
