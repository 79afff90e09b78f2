import RingKeeper.Settings.Schema
import RingKeeper.Span.Grammar
import RingKeeper.Text.Number

/-!
# Settings of the bootstrap helper

The helper learns from its environment which pod it serves, where the registry is, how long it may
wait, and how to reach the administration tool.
-/

namespace RingKeeper

structure BootstrapSettings where
  podNamespace : String
  podName : String
  /-- The current address of this pod. -/
  podIp : String
  /-- The name of the configmap that holds the topology registry. -/
  registryName : String
  /-- How long to wait for the node to rejoin the ring. -/
  timeout : Span
  jmxPort : Nat
  useSsl : Bool
  /-- Whether to look for a live node at the old address and shut it down. -/
  shutdownOldNode : Bool
  replaceIpFile : String
  /-- Exists once a node has bootstrapped on this volume. -/
  systemDataDir : String
  usernameFile : String
  passwordFile : String
  toolPath : String
deriving DecidableEq, Repr

/-- A span of time as the outside writes it. -/
def readSpan (raw : String) : Attempt Span :=
  match Span.ofText raw with
  | .ok d => .ok d
  | .error .numeral => .error (.causedBy (.invalidDuration raw) ValueProblem.tooLarge.text)
  | .error _ => .error (.ofKind (.invalidDuration raw))

namespace BootstrapSettings

inductive Field where
  | podNamespace
  | podName
  | podIp
  | registryName
  | timeout
  | jmxPort
  | useSsl
  | shutdownOldNode
  | replaceIpFile
  | systemDataDir
  | usernameFile
  | passwordFile
  | toolPath
deriving DecidableEq, Repr

namespace Field

def key : Field → String
  | podNamespace => "pod_namespace"
  | podName => "pod_name"
  | podIp => "pod_ip"
  | registryName => "cassandra_ip_lock_cm"
  | timeout => "bootstrap_timeout"
  | jmxPort => "jmx_port"
  | useSsl => "use_ssl"
  | shutdownOldNode => "shutdown_old_reachable_node"
  | replaceIpFile => "replace_ip_file"
  | systemDataDir => "system_data_dir"
  | usernameFile => "auth_username_file"
  | passwordFile => "auth_password_file"
  | toolPath => "nodetool_path"

/-- All fields, in the order in which missing ones are reported. -/
def all : List Field :=
  [podNamespace, podName, podIp, registryName, timeout, jmxPort, useSsl, shutdownOldNode,
    replaceIpFile, systemDataDir, usernameFile, passwordFile, toolPath]

def Value : Field → Type
  | timeout => Span
  | jmxPort => Nat
  | useSsl => Bool
  | shutdownOldNode => Bool
  | _ => String

def read (f : Field) (name value : String) : Except EnvironmentProblem f.Value :=
  match f with
  | timeout =>
    match Span.ofText value with
    | .ok d => .ok d
    | .error _ => .error (.badTimeout value)
  | jmxPort => readAs (Text.naturalBelow Width.bits16 value.toList) name value
  | useSsl | shutdownOldNode => readAs (Text.truthValue value) name value
  | podNamespace | podName | podIp | registryName | replaceIpFile | systemDataDir | usernameFile
  | passwordFile | toolPath => .ok value

end Field

def schema : Schema where
  Field := Field
  fields := Field.all
  key := Field.key
  Value := Field.Value
  read := Field.read

/-- The settings of a draft, with the defaults of absent fields. -/
def ofDraft (d : schema.Draft) : Except EnvironmentProblem BootstrapSettings := do
  let podNamespace : String ← d.need Field.podNamespace
  let podName : String ← d.need Field.podName
  let podIp : String ← d.need Field.podIp
  let registryName : String ← d.need Field.registryName
  let timeout : Span ← d.need Field.timeout
  let jmxPort : Nat := (d Field.jmxPort).getD (7199 : Nat)
  let useSsl : Bool := (d Field.useSsl).getD false
  let shutdownOldNode : Bool := (d Field.shutdownOldNode).getD false
  let replaceIpFile : String :=
    (d Field.replaceIpFile).getD "/var/lib/cassandra/replace.ip"
  let systemDataDir : String :=
    (d Field.systemDataDir).getD "/var/lib/cassandra/data/system"
  let usernameFile : String :=
    (d Field.usernameFile).getD "/etc/cassandra/authentication/username"
  let passwordFile : String :=
    (d Field.passwordFile).getD "/etc/cassandra/authentication/password"
  let toolPath : String := (d Field.toolPath).getD "nodetool"
  .ok
    { podNamespace, podName, podIp, registryName, timeout, jmxPort, useSsl, shutdownOldNode,
      replaceIpFile, systemDataDir, usernameFile, passwordFile, toolPath }

def ofEnvironment (env : Environment) : Except EnvironmentProblem BootstrapSettings := do
  ofDraft (← schema.draft env)

end BootstrapSettings

end RingKeeper
