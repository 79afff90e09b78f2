import RingKeeper.Settings.Schema
import RingKeeper.Text.Number
import RingKeeper.Width

/-!
# Settings of the recovery controller

The controller may be confined to one namespace and to the pods of one instance. It needs no
setting at all.
-/

namespace RingKeeper

structure RecoverySettings where
  /-- The only namespace to watch; all namespaces when absent or empty. -/
  watchNamespace : Option String := none
  /-- The only instance whose pods are watched; all pods when absent or empty. -/
  instanceName : Option String := none
  /-- A pod that has this label set to true is recovered in any case. -/
  evictionLabel : Option String := none
  /-- How often a failing pod is tried again before it is dropped. -/
  maxRetries : Nat := 5
deriving DecidableEq, Repr

namespace RecoverySettings

inductive Field where
  | watchNamespace
  | instanceName
  | evictionLabel
  | maxRetries
deriving DecidableEq, Repr

def Field.key : Field → String
  | watchNamespace => "watch_namespace"
  | instanceName => "instance_name"
  | evictionLabel => "eviction_label"
  | maxRetries => "max_retries"

def Field.Value : Field → Type
  | maxRetries => Nat
  | _ => String

def Field.read (f : Field) (name value : String) : Except EnvironmentProblem f.Value :=
  match f with
  | maxRetries =>
    readAs (Text.naturalBelow Width.bits32 value.toList) name value
  | watchNamespace | instanceName | evictionLabel => .ok value

def schema : Schema where
  Field := Field
  fields := [.watchNamespace, .instanceName, .evictionLabel, .maxRetries]
  key := Field.key
  Value := Field.Value
  read := Field.read

def ofDraft (d : schema.Draft) : RecoverySettings where
  watchNamespace := d Field.watchNamespace
  instanceName := d Field.instanceName
  evictionLabel := d Field.evictionLabel
  maxRetries := (d Field.maxRetries).getD (5 : Nat)

def ofEnvironment (env : Environment) : Except EnvironmentProblem RecoverySettings := do
  let d ← schema.draft env
  .ok (ofDraft d)

/-- The text of a setting, unless it is empty. -/
def nonempty (value : Option String) : Option String := value.filter fun s => !s.isEmpty

/-- The selector for the pods of the instance. -/
def labelSelector (c : RecoverySettings) : Option String :=
  (nonempty c.instanceName).map fun i => "app.kubernetes.io/instance=" ++ i

end RecoverySettings

end RingKeeper
