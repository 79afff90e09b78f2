import RingKeeper.Bootstrap.Basic

/-!
# Replacing an earlier self

A node that comes back under a new address without having bootstrapped under the old one has to
replace the node at the old address. The replace marker tells it so. A live node at the old address
may be shut down first; that always ends in a failure, so that the decision is made anew.
-/

namespace RingKeeper.Bootstrap

/-- Whether a node at the old address can be reached, is up and normal, and gossips. -/
def isOldNodeAlive (oldIp : String) : Procedure Bool := do
  match ← ask (.connect oldIp) with
  | .error _ => return false
  | .ok () =>
    match Admin.ringOf (← ask (.command (.peer oldIp) Admin.statusCommand)) with
    | .error _ => return false
    | .ok ring =>
      if ring.isUpAndNormal oldIp then
        match Admin.gossipOf (← ask (.command (.peer oldIp) Admin.infoCommand)) with
        | .error _ => return false
        | .ok active => return active
      else return false

/-- Drains the old node and takes it out of the ring, as far as it lets itself be told. -/
def shutDownOldNode (oldIp : String) : Procedure Unit := do
  match ← ask (.connect oldIp) with
  | .error _ => return ()
  | .ok () =>
    let _ ← ask (.command (.peer oldIp) Admin.drainCommand)
    let _ ← ask (.command (.peer oldIp) Admin.disableGossipCommand)
    return ()

/-- Whether a live node at the old address was found; only looked for if the settings say so. -/
def findOldNode (b : Bootstrap) (oldIp : String) : Procedure Bool :=
  if b.settings.shutdownOldNode then isOldNodeAlive oldIp else return false

/-- Whether the node has bootstrapped before. If that cannot be told from its data directory, it has
not. -/
def isBootstrapped (b : Bootstrap) : Procedure Bool := do
  match ← ask (.lookUp b.settings.systemDataDir) with
  | .present => return true
  | .absent => return false
  | .unknown _ => return false

/--
Writes the replace marker if this node has to replace the one at its old address. Answers whether
the marker was written.
-/
def markReplacement (b : Bootstrap) : Procedure (Attempt Bool) := do
  match ← inStore (b.registry.addressOf b.settings.podName) with
  | .error f => return .error f
  | .ok none => return .ok false
  | .ok (some oldIp) =>
    if oldIp = b.settings.podIp then return .ok false
    else if ← b.findOldNode oldIp then
      shutDownOldNode oldIp
      return .error (.ofKind (.oldNodeStillRunning oldIp))
    else if ← b.isBootstrapped then return .ok false
    else
      match ← b.writeMarker oldIp with
      | .error f => return .error f
      | .ok () => return .ok true

/-- Decides whether to replace, and tries again as the policy says. -/
def prepare (b : Bootstrap) : Procedure (Attempt Bool) :=
  b.policy.retry sleep b.markReplacement

end RingKeeper.Bootstrap
