import RingKeeper.Recovery.Diagnosis

/-!
# Starting over

First every claim of the pod is looked up, then the volumes of the claims found are detached, then
the claims are deleted, and at last the pod. Each step may have been taken before, so a clean start
that failed is simply made again.
-/

namespace RingKeeper.Recovery

/-- The claims of these names that exist. -/
def findClaims (inNamespace : String) : List String → Procedure (Attempt (List Claim))
  | [] => return .ok []
  | name :: names => do
    match ← ask (.getClaim inNamespace name) with
    | .error f => return .error f
    | .ok found =>
      match ← findClaims inNamespace names with
      | .error f => return .error f
      | .ok claims => return .ok (found.toList ++ claims)

/-- Takes the volume away from its claim. A volume without a claim is not written. -/
def detach (volume : String) : Procedure (Attempt Unit) := do
  match ← ask (.getVolume volume) with
  | .error f => return .error f
  | .ok none => return .ok ()
  | .ok (some v) =>
    if v.claimRef?.isSome then ask (.replaceVolume v.unclaimed) else return .ok ()

/-- Carries out a step for each item, up to the first that fails. -/
def forAll {β : Type} (step : β → Procedure (Attempt Unit)) : List β → Procedure (Attempt Unit)
  | [] => return .ok ()
  | b :: bs => do
    match ← step b with
    | .error f => return .error f
    | .ok () => forAll step bs

/-- Detaches the pod's volumes, deletes its claims, and deletes the pod. -/
def startOver (pod : Pod) : Procedure (Attempt Unit) := do
  let inNamespace := pod.metadata.namespaceOrEmpty
  match ← findClaims inNamespace pod.mountedClaims with
  | .error f => return .error f
  | .ok claims =>
    match ← forAll detach (claims.filterMap Claim.volume?) with
    | .error f => return .error f
    | .ok () =>
      match ← forAll (fun c => ask (.deleteClaim inNamespace c.metadata.nameOrEmpty)) claims with
      | .error f => return .error f
      | .ok () => ask (.deletePod inNamespace pod.metadata.nameOrEmpty)

/--
Looks the pod up, judges it, and gives it a clean start if it needs one. Answers with the verdict;
a pod that does not exist needs nothing.
-/
def recover (evictionLabel : Option String) (inNamespace name : String) :
    Procedure (Attempt Verdict) := do
  match ← ask (.getPod inNamespace name) with
  | .error f => return .error f
  | .ok none => return .ok .healthy
  | .ok (some pod) =>
    match ← diagnose pod evictionLabel with
    | .error f =>
      return .error
        (f.within (.message s!"failed to detect recovery condition of {inNamespace}/{name}"))
    | .ok verdict =>
      if verdict.needsRecovery then
        match ← startOver pod with
        | .error f =>
          return .error (f.within (.message s!"failed to clean start pod {inNamespace}/{name}"))
        | .ok () => return .ok verdict
      else return .ok verdict

end RingKeeper.Recovery
