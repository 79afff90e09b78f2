import RingKeeper.Proofs.Settings.Schema
import RingKeeper.Proofs.Span
import RingKeeper.Proofs.Text

/-!
# The settings of the bootstrap helper do not depend on the order of the environment

1. `Field.Means` says what the text of a variable stands for in its field (`Field.read_ok`), and
   `Field.default?` what a field is without a variable. `Says` puts the two together.
2. `ofEnvironment_ok` says that the settings are what the environment says about each field.
3. `Suffices` is what an environment has to be for settings to be read from it
   (`exists_ofEnvironment`).
4. `reads_in_any_order` is what reading settings comes to.
-/

namespace RingKeeper.BootstrapSettings

open Text

/-! ## What an environment says -/

namespace Field

/-- The text of a variable of this field stands for this value. -/
def Means (f : Field) (text : String) : f.Value → Prop :=
  match f with
  | timeout => fun d : Span => readSpan text = .ok d
  | jmxPort => fun n : Nat => IsNumeral text.toList n ∧ n < 65536
  | useSsl | shutdownOldNode => fun b : Bool => text = if b then "true" else "false"
  | podNamespace | podName | podIp | registryName | replaceIpFile | systemDataDir | usernameFile
  | passwordFile | toolPath => fun v : String => text = v

/-- The value of a field without a variable. Some fields have to be given. -/
def default? : (f : Field) → Option f.Value
  | podNamespace | podName | podIp | registryName | timeout => none
  | jmxPort => some (7199 : Nat)
  | useSsl | shutdownOldNode => some false
  | replaceIpFile => some "/var/lib/cassandra/replace.ip"
  | systemDataDir => some "/var/lib/cassandra/data/system"
  | usernameFile => some "/etc/cassandra/authentication/username"
  | passwordFile => some "/etc/cassandra/authentication/password"
  | toolPath => some "nodetool"

end Field

/-- The value that the settings have in a field. -/
def value (c : BootstrapSettings) : (f : Field) → f.Value
  | .podNamespace => c.podNamespace
  | .podName => c.podName
  | .podIp => c.podIp
  | .registryName => c.registryName
  | .timeout => c.timeout
  | .jmxPort => c.jmxPort
  | .useSsl => c.useSsl
  | .shutdownOldNode => c.shutdownOldNode
  | .replaceIpFile => c.replaceIpFile
  | .systemDataDir => c.systemDataDir
  | .usernameFile => c.usernameFile
  | .passwordFile => c.passwordFile
  | .toolPath => c.toolPath

/-- The settings with these values. -/
def ofValues (g : (f : Field) → f.Value) : BootstrapSettings where
  podNamespace := g .podNamespace
  podName := g .podName
  podIp := g .podIp
  registryName := g .registryName
  timeout := g .timeout
  jmxPort := g .jmxPort
  useSsl := g .useSsl
  shutdownOldNode := g .shutdownOldNode
  replaceIpFile := g .replaceIpFile
  systemDataDir := g .systemDataDir
  usernameFile := g .usernameFile
  passwordFile := g .passwordFile
  toolPath := g .toolPath

/-- The field has this value by a variable, or there is none and it is the default. -/
def Says (env : Environment) (f : Field) (v : f.Value) : Prop :=
  (∃ p ∈ env, lowerName p.1 = f.key ∧ f.Means p.2 v) ∨
    (∀ p ∈ env, lowerName p.1 ≠ f.key) ∧ f.default? = some v

/-- What an environment has to be for settings to be read from it. -/
structure Suffices (env : Environment) : Prop where
  unambiguous : schema.Unambiguous env
  given : ∀ key ∈ ["pod_namespace", "pod_name", "pod_ip", "cassandra_ip_lock_cm",
    "bootstrap_timeout"], ∃ p ∈ env, lowerName p.1 = key
  port : ∀ p ∈ env, lowerName p.1 = "jmx_port" → ∃ n, IsNumeral p.2.toList n ∧ n < 65536
  truthValues : ∀ p ∈ env, lowerName p.1 ∈ ["use_ssl", "shutdown_old_reachable_node"] →
    p.2 = "true" ∨ p.2 = "false"
  timeout : ∀ p ∈ env, lowerName p.1 = "bootstrap_timeout" → ∃ d, readSpan p.2 = .ok d

variable {env env' : Environment} {c : BootstrapSettings} {d : schema.Draft} {f : Field}
  {v : f.Value} {name text : String}

/-! ## Fields -/

theorem isWellFormed : schema.IsWellFormed where
  listed := fun f : Field => show f ∈ Field.all by cases f <;> decide
  distinct := by decide

theorem Field.read_ok : f.read name text = .ok v ↔ f.Means text v := by
  cases f with
  | timeout =>
    refine Iff.trans ?_ Span.readSpan_ok.symm
    unfold Field.read
    cases Span.ofText text with
    | ok d => exact ⟨fun h => congrArg Except.ok (Except.ok.inj h),
        fun h => congrArg Except.ok (Except.ok.inj h)⟩
    | error problem => exact ⟨nofun, nofun⟩
  | jmxPort => exact Schema.readAs_ok.trans (naturalBelow_ok (by decide))
  | useSsl | shutdownOldNode => exact Schema.readAs_ok.trans truthValue_ok
  | podNamespace | podName | podIp | registryName | replaceIpFile | systemDataDir | usernameFile
  | passwordFile | toolPath => exact ⟨Except.ok.inj, congrArg Except.ok⟩

/-- The value that a draft holds of a field. -/
def found (d : schema.Draft) (f : Field) : Option f.Value := d f

/-- The settings of a draft are its values, and the defaults of the other fields. -/
theorem ofDraft_ok : ofDraft d = .ok c ↔ ∀ f, (found d f).or f.default? = some (c.value f) := by
  constructor
  · intro h
    obtain ⟨podNamespace, hpodNamespace, h⟩ := Schema.need_bind_ok.mp h
    obtain ⟨podName, hpodName, h⟩ := Schema.need_bind_ok.mp h
    obtain ⟨podIp, hpodIp, h⟩ := Schema.need_bind_ok.mp h
    obtain ⟨registryName, hregistryName, h⟩ := Schema.need_bind_ok.mp h
    obtain ⟨timeout, htimeout, h⟩ := Schema.need_bind_ok.mp h
    obtain rfl := Except.ok.inj h
    intro f
    cases f with
    | podNamespace => exact Option.or_none.trans hpodNamespace
    | podName => exact Option.or_none.trans hpodName
    | podIp => exact Option.or_none.trans hpodIp
    | registryName => exact Option.or_none.trans hregistryName
    | timeout => exact Option.or_none.trans htimeout
    | jmxPort | useSsl | shutdownOldNode | replaceIpFile | systemDataDir | usernameFile
    | passwordFile | toolPath => exact Option.or_some
  · intro h
    have hneeded {f : Field} (hf : f.default? = none) : found d f = some (c.value f) := by
      rw [← h f, hf, Option.or_none]
    have hother {f : Field} {v : f.Value} (hf : f.default? = some v) :
        (found d f).getD v = c.value f := by
      rw [← Option.some_inj, ← h f, hf, Option.or_some]
    refine Schema.need_bind_ok.mpr ⟨_, hneeded (f := .podNamespace) rfl, ?_⟩
    refine Schema.need_bind_ok.mpr ⟨_, hneeded (f := .podName) rfl, ?_⟩
    refine Schema.need_bind_ok.mpr ⟨_, hneeded (f := .podIp) rfl, ?_⟩
    refine Schema.need_bind_ok.mpr ⟨_, hneeded (f := .registryName) rfl, ?_⟩
    refine Schema.need_bind_ok.mpr ⟨_, hneeded (f := .timeout) rfl, ?_⟩
    refine congrArg Except.ok ?_
    cases c
    congr 1
    · exact hother (f := .jmxPort) rfl
    · exact hother (f := .useSsl) rfl
    · exact hother (f := .shutdownOldNode) rfl
    · exact hother (f := .replaceIpFile) rfl
    · exact hother (f := .systemDataDir) rfl
    · exact hother (f := .usernameFile) rfl
    · exact hother (f := .passwordFile) rfl
    · exact hother (f := .toolPath) rfl

theorem value_ofValues (g : (f : Field) → f.Value) (f : Field) : (ofValues g).value f = g f := by
  cases f <;> rfl

/-! ## Environments -/

theorem says_iff : Says env f v ↔ ∃ w : Option f.Value,
    (schema.Lacks env f ∧ w = none ∨ ∃ v, schema.Gives env f v ∧ w = some v) ∧
      w.or f.default? = some v := by
  constructor
  · rintro (⟨p, hp, hf, hv⟩ | ⟨hlacks, hv⟩)
    · exact ⟨some v, Or.inr ⟨v, ⟨p, hp, hf, Field.read_ok.mpr hv⟩, rfl⟩, rfl⟩
    · exact ⟨none, Or.inl ⟨hlacks, rfl⟩, hv⟩
  · rintro ⟨_, ⟨hlacks, rfl⟩ | ⟨w, ⟨p, hp, hf, hread⟩, rfl⟩, hv⟩
    · exact Or.inr ⟨hlacks, hv⟩
    · obtain rfl : w = v := Option.some.inj hv
      exact Or.inl ⟨p, hp, hf, Field.read_ok.mp hread⟩

theorem ofEnvironment_bind : ofEnvironment env = .ok c ↔
    ∃ d, schema.draft env = .ok d ∧ ofDraft d = .ok c := by
  unfold ofEnvironment
  cases schema.draft env <;> simp [bind, Except.bind]

/-- The settings are what the environment says about each field. -/
theorem ofEnvironment_ok : ofEnvironment env = .ok c ↔
    schema.Unambiguous env ∧ ∀ f, Says env f (c.value f) := by
  simp only [ofEnvironment_bind, Schema.draft_ok isWellFormed, ofDraft_ok, says_iff]
  constructor
  · rintro ⟨d, ⟨hunique, hread⟩, hvalues⟩
    exact ⟨hunique, fun f => ⟨d f, hread f, hvalues f⟩⟩
  · rintro ⟨hunique, hsays⟩
    choose d hread hvalues using hsays
    exact ⟨d, ⟨hunique, hread⟩, hvalues⟩

/-- Each field without a default is given, and each field that is given can be read. -/
theorem exists_says_iff (h : schema.Unambiguous env) : (∀ f, ∃ v, Says env f v) ↔
    (∀ f : Field, f.default? = none → ∃ p ∈ env, lowerName p.1 = f.key) ∧
      ∀ p ∈ env, ∀ f : Field, lowerName p.1 = f.key → ∃ v, f.Means p.2 v := by
  constructor
  · intro hsays
    -- A variable of the field is the one that says its value, as there is no other.
    refine ⟨fun f hf => ?_, fun p hp f hf => ?_⟩
    · obtain ⟨v, ⟨p, hp, hpf, -⟩ | ⟨-, hv⟩⟩ := hsays f
      · exact ⟨p, hp, hpf⟩
      · rw [hf] at hv
        cases hv
    · obtain ⟨v, ⟨q, hq, hqf, hv⟩ | ⟨hlacks, -⟩⟩ := hsays f
      · have hpf : schema.Denotes p.1 f := hf
        obtain rfl := h.eq_of_denotes hp hq hpf hqf
        exact ⟨v, hv⟩
      · exact absurd hf (hlacks p hp)
  · rintro ⟨hneeded, hmeans⟩ f
    by_cases hgiven : ∃ p ∈ env, lowerName p.1 = f.key
    · obtain ⟨p, hp, hf⟩ := hgiven
      obtain ⟨v, hv⟩ := hmeans p hp f hf
      exact ⟨v, Or.inl ⟨p, hp, hf, hv⟩⟩
    · cases hdefault : f.default? with
      | none => exact absurd (hneeded f hdefault) hgiven
      | some v => exact ⟨v, Or.inr ⟨fun p hp hf => hgiven ⟨p, hp, hf⟩, hdefault⟩⟩

/-- The fields without a default, by the names of their variables. -/
theorem needed_iff {P : String → Prop} : (∀ f : Field, f.default? = none → P f.key) ↔
    ∀ key ∈ ["pod_namespace", "pod_name", "pod_ip", "cassandra_ip_lock_cm", "bootstrap_timeout"],
      P key := by
  simp only [List.mem_cons, List.not_mem_nil, or_false, forall_eq_or_imp, forall_eq]
  constructor
  · intro h
    exact ⟨h .podNamespace rfl, h .podName rfl, h .podIp rfl, h .registryName rfl, h .timeout rfl⟩
  · rintro ⟨hpodNamespace, hpodName, hpodIp, hregistryName, htimeout⟩ f hf
    cases f with
    | podNamespace => exact hpodNamespace
    | podName => exact hpodName
    | podIp => exact hpodIp
    | registryName => exact hregistryName
    | timeout => exact htimeout
    | jmxPort | useSsl | shutdownOldNode | replaceIpFile | systemDataDir | usernameFile
    | passwordFile | toolPath => cases hf

theorem exists_truthValue :
    (∃ b : Bool, text = if b then "true" else "false") ↔ text = "true" ∨ text = "false" := by
  simp [Bool.exists_bool, or_comm]

/-- Only four fields do not take every text. -/
theorem exists_means_iff : (∀ f : Field, lowerName name = f.key → ∃ v, f.Means text v) ↔
    (lowerName name = "jmx_port" → ∃ n, IsNumeral text.toList n ∧ n < 65536) ∧
      (lowerName name ∈ ["use_ssl", "shutdown_old_reachable_node"] →
        text = "true" ∨ text = "false") ∧
      (lowerName name = "bootstrap_timeout" → ∃ d, readSpan text = .ok d) := by
  constructor
  · intro h
    refine ⟨h .jmxPort, fun hname => ?_, h .timeout⟩
    rcases List.mem_pair.mp hname with hname | hname
    · exact exists_truthValue.mp (h .useSsl hname)
    · exact exists_truthValue.mp (h .shutdownOldNode hname)
  · rintro ⟨hport, htruth, htimeout⟩ f hf
    cases f with
    | timeout => exact htimeout hf
    | jmxPort => exact hport hf
    | useSsl => exact exists_truthValue.mpr (htruth (List.mem_pair.mpr (Or.inl hf)))
    | shutdownOldNode => exact exists_truthValue.mpr (htruth (List.mem_pair.mpr (Or.inr hf)))
    | podNamespace | podName | podIp | registryName | replaceIpFile | systemDataDir | usernameFile
    | passwordFile | toolPath => exact ⟨text, rfl⟩

theorem exists_ofEnvironment : (∃ c, ofEnvironment env = .ok c) ↔ Suffices env := by
  have hvalues : (∃ c : BootstrapSettings, ∀ f, Says env f (c.value f)) ↔
      ∀ f, ∃ v, Says env f v := by
    constructor
    · rintro ⟨c, hc⟩ f
      exact ⟨c.value f, hc f⟩
    · intro h
      choose g hg using h
      exact ⟨ofValues g, fun f => (value_ofValues g f).symm ▸ hg f⟩
  simp only [ofEnvironment_ok, exists_and_left, hvalues]
  constructor
  · rintro ⟨hunique, h⟩
    obtain ⟨hneeded, hmeans⟩ := (exists_says_iff hunique).mp h
    have hread := fun p hp => exists_means_iff.mp (hmeans p hp)
    exact ⟨hunique, needed_iff.mp hneeded, fun p hp => (hread p hp).1,
      fun p hp => (hread p hp).2.1, fun p hp => (hread p hp).2.2⟩
  · intro h
    refine ⟨h.unambiguous, (exists_says_iff h.unambiguous).mpr ⟨needed_iff.mpr h.given, ?_⟩⟩
    exact fun p hp =>
      exists_means_iff.mpr ⟨h.port p hp, h.truthValues p hp, h.timeout p hp⟩

theorem ofEnvironment_perm (hperm : env.Perm env') (h : ofEnvironment env = .ok c) :
    ofEnvironment env' = .ok c := by
  obtain ⟨d, hd, hc⟩ := ofEnvironment_bind.mp h
  exact ofEnvironment_bind.mpr ⟨d, Schema.draft_perm isWellFormed hperm hd, hc⟩

/--
**Settings are read of the variables in any order.**

1. After any reordering the same settings are read, or again none.
2. Settings are read exactly if no two variables denote one field, all five fields without a default
   are given, and the port, the truth values and the timeout can be read where they are given.
3. Each field then has the value that its variable stands for, or its default without a variable.
4. A variable that denotes no field might as well be absent, whatever comes of the reading.
-/
theorem reads_in_any_order (env : Environment) :
    (∀ shuffled, env.Perm shuffled →
      ∀ c, ofEnvironment shuffled = .ok c ↔ ofEnvironment env = .ok c) ∧
    ((∃ c, ofEnvironment env = .ok c) ↔ Suffices env) ∧
    (∀ c, ofEnvironment env = .ok c ↔
      schema.Unambiguous env ∧ ∀ f, Says env f (c.value f)) ∧
    ∀ before name text after, env = before ++ (name, text) :: after →
      (∀ f : Field, lowerName name ≠ f.key) →
        ofEnvironment env = ofEnvironment (before ++ after) := by
  refine ⟨fun shuffled hperm c => ⟨ofEnvironment_perm hperm.symm, ofEnvironment_perm hperm⟩,
    exists_ofEnvironment, fun c => ofEnvironment_ok, ?_⟩
  rintro before name text after rfl hname
  unfold ofEnvironment
  rw [Schema.draft_unknown isWellFormed hname]

/-- Settings of which only some are given, in names of all kinds; one of the variables is of no
field. -/
def mixedVariables : Environment :=
  [("PATH", "/bin"), ("Pod_Namespace", "ring"), ("POD_NAME", "node-0"), ("pod_ip", "10.0.0.9"),
    ("CASSANDRA_IP_LOC\u212A_CM", "topology"), ("BOOTSTRAP_TIMEOUT", " 1h30m "),
    ("JMX_PORT", "+07200")]

def mixedSettings : BootstrapSettings where
  podNamespace := "ring"
  podName := "node-0"
  podIp := "10.0.0.9"
  registryName := "topology"
  timeout := .ofSeconds 5400
  jmxPort := 7200
  useSsl := false
  shutdownOldNode := false
  replaceIpFile := "/var/lib/cassandra/replace.ip"
  systemDataDir := "/var/lib/cassandra/data/system"
  usernameFile := "/etc/cassandra/authentication/username"
  passwordFile := "/etc/cassandra/authentication/password"
  toolPath := "nodetool"

theorem reads_in_any_order_mixed :
    mixedVariables.Perm mixedVariables.reverse ∧
      ofEnvironment mixedVariables.reverse = .ok mixedSettings ∧
      ofEnvironment mixedVariables.tail = .ok mixedSettings := by
  have hread : ofEnvironment mixedVariables = .ok mixedSettings := by rfl
  have hperm : mixedVariables.Perm mixedVariables.reverse := (List.reverse_perm _).symm
  have hpath : ∀ f : Field, lowerName "PATH" ≠ f.key := by
    intro f
    cases f <;> decide
  obtain ⟨hshuffled, -, -, habsent⟩ := reads_in_any_order mixedVariables
  refine ⟨hperm, (hshuffled _ hperm _).mpr hread, ?_⟩
  rw [← hread]
  exact (habsent [] "PATH" "/bin" mixedVariables.tail rfl hpath).symm

-- Of several problems the first one is reported, so the report does depend on the order.
example : ofEnvironment [("USE_SSL", "no"), ("JMX_PORT", "")] =
    .error (.unreadable .notBoolean "no" "USE_SSL") := by rfl
example : ofEnvironment [("JMX_PORT", ""), ("USE_SSL", "no")] =
    .error (.unreadable .emptyInteger "" "JMX_PORT") := by rfl

end RingKeeper.BootstrapSettings
