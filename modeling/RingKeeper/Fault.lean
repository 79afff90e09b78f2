/-!
# Faults

A fault names its cause. Faults are wrapped in contexts on their way out, so a fault has a top
kind, the kinds below it from the outermost to the innermost, and perhaps a root that this library
did not raise itself. Only the top kind decides whether trying again is pointless.
-/

namespace RingKeeper

/-- Why a value of the environment could not be read. -/
inductive ValueProblem where
  | invalidDigit
  | emptyInteger
  | tooLarge
  | notBoolean
deriving DecidableEq, Repr

def ValueProblem.text : ValueProblem → String
  | invalidDigit => "invalid digit found in string"
  | emptyInteger => "cannot parse integer from empty string"
  | tooLarge => "number too large to fit in target type"
  | notBoolean => "provided string was not `true` or `false`"

/-- What is wrong with the environment that the settings are read from. -/
inductive EnvironmentProblem where
  | missing (field : String)
  | repeated (field : String)
  /-- The variable with this name has a value that its field cannot take. -/
  | unreadable (problem : ValueProblem) (value name : String)
  | badTimeout (value : String)
  | other (text : String)
deriving DecidableEq, Repr

def invalidDurationText (raw : String) : String := s!"invalid duration '{raw}'"

def EnvironmentProblem.text : EnvironmentProblem → String
  | missing field => s!"missing value for field {field}"
  | repeated field => s!"duplicate field `{field}`"
  | unreadable problem value name =>
    s!"{problem.text} while parsing value '{value}' provided by {name}"
  | badTimeout value => s!"error parsing BOOTSTRAP_TIMEOUT: {invalidDurationText value}"
  | other text => text

namespace Fault

inductive Kind where
  /-- A context, or a failure that needs no kind of its own. -/
  | message (text : String)
  | io (text : String)
  /-- A call to the cluster's API failed. -/
  | cluster (text : String)
  | environment (problem : EnvironmentProblem)
  | registryNotFound (name : String)
  | lockHeld (name holder : String)
  | conflict (name : String)
  | commandFailed (command output : String)
  | gossipStateMissing (output : String)
  | oldNodeStillRunning (address : String)
  | rejoinTimeout (address : String)
  | invalidDuration (raw : String)
  | usage (argument : String)
deriving DecidableEq, Repr

def Kind.text : Kind → String
  | message text => text
  | io text => text
  | cluster text => text
  | environment problem => problem.text
  | registryNotFound name => s!"topology registry configmap '{name}' could not be found"
  | lockHeld name holder => s!"cannot acquire lock for {name}: pod {holder} has the lock"
  | conflict name => s!"{name} was modified concurrently"
  | commandFailed command output => s!"nodetool {command} failed: {output}"
  | gossipStateMissing output => s!"failed to find gossip state in info output: {output}"
  | oldNodeStillRunning address => s!"tried to shut down old node {address}, wait for retry"
  | rejoinTimeout address => s!"timeout while waiting for {address} to be registered"
  | invalidDuration raw => invalidDurationText raw
  | usage argument => s!"unknown command '{argument}', expected one of: init, wait"

/-- The kind in a few words, without what it carries. -/
def Kind.summary : Kind → String
  | message text => text
  | io text => text
  | cluster text => text
  | environment problem => problem.text
  | registryNotFound _ => "topology registry not found"
  | lockHeld .. => "registry lock held by another pod"
  | conflict _ => "concurrent modification"
  | commandFailed .. => "nodetool command failed"
  | gossipStateMissing _ => "gossip state not found"
  | oldNodeStillRunning _ => "old node still running"
  | rejoinTimeout _ => "timed out waiting for rejoin"
  | invalidDuration _ => "invalid duration"
  | usage _ => "invalid arguments"

/-- A broken deployment, which trying again does not mend. -/
def Kind.isFatal : Kind → Bool
  | registryNotFound _ => true
  | environment _ => true
  | usage _ => true
  | _ => false

end Fault

structure Fault where
  kind : Fault.Kind
  /-- The kinds below the top one, outermost first. -/
  below : List Fault.Kind
  /-- The text of a root cause that was raised outside this library. -/
  root : Option String
deriving DecidableEq, Repr

namespace Fault

def ofKind (kind : Kind) : Fault := ⟨kind, [], none⟩

def message (text : String) : Fault := ofKind (.message text)

/-- A fault of this kind that was caused by a failure outside this library. -/
def causedBy (kind : Kind) (root : String) : Fault := ⟨kind, [], some root⟩

/-- The fault below a new top kind. -/
def within (f : Fault) (kind : Kind) : Fault := ⟨kind, f.kind :: f.below, f.root⟩

def isFatal (f : Fault) : Bool := f.kind.isFatal

/-- The texts from the top of the fault to its root. -/
def texts (f : Fault) : List String :=
  (f.kind :: f.below).map Kind.text ++ f.root.toList

/-- The fault as it is reported, a line for each level. -/
def report (f : Fault) : String :=
  match f.texts with
  | [] => ""
  | top :: causes =>
    String.join (s!"Error: {top}\n" :: causes.map fun c => s!"Caused by: {c}\n")

@[simp] theorem kind_within (f : Fault) (k : Kind) : (f.within k).kind = k := rfl

@[simp] theorem isFatal_within (f : Fault) (k : Kind) : (f.within k).isFatal = k.isFatal := rfl

end Fault

/-- The outcome of an operation that may fail. -/
abbrev Attempt (α : Type) : Type := Except Fault α

end RingKeeper
