/-!
# The ring

A ring is a list of datacenters, each with its nodes, as the administration tool reports them. A
node is looked up by its address, and the first node with that address counts.
-/

namespace RingKeeper

/-- One row of the ring table, every column as it was printed. -/
structure Node where
  /-- Two letters: up or down, then normal, leaving, joining or moving. -/
  state : String
  address : String
  load : String
  tokens : String
  /-- The effective ownership, a question mark when unknown. -/
  owns : String
  hostId : String
  rack : String
deriving DecidableEq, Repr

/-- A node is up when its state says so, whatever else it is doing. -/
def Node.isUp (n : Node) : Bool := n.state.toList.contains 'U'

structure Datacenter where
  name : String
  nodes : List Node
deriving DecidableEq, Repr

/-- The datacenters of a cluster in the order of the report. -/
structure Ring where
  datacenters : List Datacenter
deriving DecidableEq, Repr

namespace Ring

def isEmpty (r : Ring) : Bool := r.datacenters.isEmpty

/-- All nodes, datacenter after datacenter. -/
def nodes (r : Ring) : List Node := r.datacenters.flatMap (·.nodes)

def find? (r : Ring) (address : String) : Option Node :=
  r.nodes.find? fun n => decide (n.address = address)

/-- Whether the node with this address is up and in normal state. -/
def isUpAndNormal (r : Ring) (address : String) : Bool :=
  match r.find? address with
  | some n => decide (n.state = "UN")
  | none => false

end Ring

end RingKeeper
