import RingKeeper.Fault
import RingKeeper.Ring.Gossip
import RingKeeper.Ring.Grammar

/-!
# Administration of nodes

A node is administered by commands that answer with text. The ring and the gossip flag are read
from the answers of two of them.
-/

namespace RingKeeper.Admin

/-- The node that commands go to: the one beside this program, or the one at an address. -/
inductive Target where
  | own
  | peer (host : String)
deriving DecidableEq, Repr

def statusCommand : String := "status"

def infoCommand : String := "info"

/-- Makes the node flush its tables and stop listening. -/
def drainCommand : String := "drain"

/-- Takes the node out of the ring while its process goes on. -/
def disableGossipCommand : String := "disablegossip"

/-- The ring by the answer to the status command. -/
def ringOf (output : Attempt String) : Attempt Ring :=
  match output with
  | .ok report => .ok (Ring.ofText report)
  | .error f => .error f

/-- The gossip flag by the answer to the info command. -/
def gossipOf (output : Attempt String) : Attempt Bool :=
  match output with
  | .error f => .error f
  | .ok report =>
    match Ring.gossip? report with
    | some active => .ok active
    | none => .error (.ofKind (.gossipStateMissing report))

end RingKeeper.Admin
