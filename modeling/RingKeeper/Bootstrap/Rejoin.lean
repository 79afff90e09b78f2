import RingKeeper.Bootstrap.Basic

/-!
# Rejoining the ring

The node polls its own view of the ring until it sees itself up, records its address in the
registry, and clears the replace marker. Polls are due at once and then after every interval,
however long the ones before took. One that is due at the very end of the wait is still made; one
that is not answered by then is not waited for.
-/

namespace RingKeeper.Bootstrap

/-- Asks the node itself for the state of the ring. -/
abbrev Question.ownStatus (limit : Span) : Question := .commandWithin limit .own Admin.statusCommand

/-- Whether the answer to a poll shows the node up. A poll that fails does not. -/
def isUpBy (b : Bootstrap) (output : Attempt String) : Bool :=
  match Admin.ringOf output with
  | .error _ => false
  | .ok ring =>
    match ring.find? b.settings.podIp with
    | some node => node.isUp
    | none => false

/-- Lets the time pass, if there is any. -/
def pause (span : Span) : Procedure Unit :=
  if span.nanos = 0 then return () else sleep span

/-- Polls once, and goes on with the time that it took if the node is not up. -/
def poll (b : Bootstrap) (limit : Span) (goOn : Span → Procedure Bool) : Procedure Bool := do
  match ← ask (.ownStatus limit) with
  | .overdue => return false
  | .finished after output => if b.isUpBy output then return true else goOn after

/-- Polls whenever it is due, until the deadline. All times are counted from when the wait began. -/
def pollUntil (b : Bootstrap) (hinterval : b.pollInterval.nanos ≠ 0) (deadline due now : Span) :
    Procedure Bool :=
  if _ : deadline.nanos < due.nanos then do
    pause (deadline - now)
    return false
  else do
    pause (due - now)
    b.poll (deadline - max now due) fun after =>
      b.pollUntil hinterval deadline (due + b.pollInterval) (max now due + after)
termination_by deadline.nanos + 1 - due.nanos
decreasing_by
  simp only [Span.nanos_add]
  omega

section
variable {b : Bootstrap} (hinterval : b.pollInterval.nanos ≠ 0) {deadline due now : Span}

theorem pollUntil_late (hlate : deadline.nanos < due.nanos) :
    b.pollUntil hinterval deadline due now = (do
      pause (deadline - now)
      return false) := by
  rw [pollUntil, dif_pos hlate]

theorem pollUntil_due (hdue : ¬ deadline.nanos < due.nanos) :
    b.pollUntil hinterval deadline due now = (do
      pause (due - now)
      b.poll (deadline - max now due) fun after =>
        b.pollUntil hinterval deadline (due + b.pollInterval) (max now due + after)) := by
  rw [pollUntil, dif_neg hdue]

end

/-- Whether the node comes up within the timeout. Polling needs an interval to go by. -/
def comesUp (b : Bootstrap) (timeout : Span) : Procedure Bool := do
  if hinterval : b.pollInterval.nanos = 0 then
    let never ← ask .halt
    nomatch never
  else b.pollUntil hinterval timeout .zero .zero

/-- The first poll comes at once. -/
theorem comesUp_eq {b : Bootstrap} (hinterval : b.pollInterval.nanos ≠ 0) (timeout : Span) :
    b.comesUp timeout = b.poll timeout fun after =>
      b.pollUntil hinterval timeout (.zero + b.pollInterval) (.zero + after) := by
  have hdue : ¬ timeout.nanos < Span.zero.nanos := Nat.not_lt_zero _
  unfold comesUp
  rw [dif_neg hinterval, pollUntil_due hinterval hdue]
  rfl

/-- Records the node's address in the registry, trying again as the policy says. -/
def commit (b : Bootstrap) : Procedure (Attempt Unit) :=
  b.policy.retry sleep
    (inStore (b.registry.commit b.settings.podName b.settings.podIp))

def commitContext : Fault.Kind := .message "error updating the configmap with the new IP"

/-- Waits until the node is up, records its address, and clears the marker. -/
def rejoinWithin (b : Bootstrap) (timeout : Span) : Procedure (Attempt Unit) := do
  if ← b.comesUp timeout then
    match ← b.commit with
    | .error f => return .error (f.within commitContext)
    | .ok () => b.writeMarker ""
  else return .error (.ofKind (.rejoinTimeout b.settings.podIp))

/-- Waits as long as the settings say. -/
def rejoin (b : Bootstrap) : Procedure (Attempt Unit) := b.rejoinWithin b.settings.timeout

end RingKeeper.Bootstrap
