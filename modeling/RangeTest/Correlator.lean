import RangeTest.Notice
import RangeTest.Receiver

namespace RangeTest

/-- All nodes met so far, by address, and the number of records refused as duplicates. -/
structure Correlator where
  nodes : Directory Receiver
  duplicates : Nat

def Correlator.empty : Correlator where
  nodes := .empty
  duplicates := 0

/-- The node with an address, a new one if it was not met before. -/
def Correlator.nodeAt (c : Correlator) (address : String) : Receiver :=
  (c.nodes.get? address).getD (.new address)

/-- Makes sure that there is a node with an address. -/
def Correlator.register (c : Correlator) (address : String) : Correlator :=
  { c with nodes := c.nodes.put address (c.nodeAt address) }

/-- Takes in a record of the receive log, which concerns the node that logged it. -/
def Correlator.receive (c : Correlator) (r : Record) : Correlator × List Notice :=
  let node := c.nodeAt r.rxLinkAddr
  let refusals := (node.refusal? r).toList
  ({ nodes := c.nodes.put r.rxLinkAddr (node.after r)
     duplicates := c.duplicates + refusals.length },
    refusals.map .receptionRefused)

/-- Takes in a record of the transmit log. Its node is registered, so that it counts as a receiver
of what other nodes transmit, and every known node gets to see the record. -/
def Correlator.transmit (c : Correlator) (r : Record) : Correlator × List Notice :=
  let nodes := (c.register r.rxLinkAddr).nodes
  let refusals := nodes.values.filterMap fun node =>
    (node.refusal? r).map (Notice.transmissionRefused node.address)
  ({ nodes := nodes.map (·.after r), duplicates := c.duplicates + refusals.length }, refusals)

end RangeTest
