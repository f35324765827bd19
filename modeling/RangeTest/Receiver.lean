import RangeTest.Directory
import RangeTest.Link.Basic

namespace RangeTest

/-- A node with its links to the senders that it has to do with. -/
structure Receiver where
  address : String
  links : Directory Link

def Receiver.new (address : String) : Receiver where
  address
  links := .empty

/-- The link to a sender, an empty one if there was none. -/
def Receiver.link (n : Receiver) (sender : String) : Link :=
  (n.links.get? sender).getD .empty

/-- The side on which a node files a record. Another node's transmission goes to the base of that
sender, and what this node received is filed as received. No other record concerns it, its own
transmissions included. -/
def Receiver.side? (address : String) (r : Record) : Option Side :=
  if r.isTransmission && r.rxLinkAddr != address then some .base
  else if !r.isTransmission && r.rxLinkAddr == address then some .received
  else none

/-- Shows a record to a node, which tells whether it filed it. The link to the sender is opened if
there is none. -/
def Receiver.offer (n : Receiver) (r : Record) : Except LinkError Bool × Receiver :=
  match side? n.address r with
  | none => (.ok false, n)
  | some side =>
    let (outcome, link) := (n.link r.txLinkAddr).add side r
    (outcome.map fun _ => true, { n with links := n.links.put r.txLinkAddr link })

/-- The node after a record was shown to it, whatever came of it. -/
def Receiver.after (n : Receiver) (r : Record) : Receiver :=
  (n.offer r).2

/-- Why a node refuses a record, if it does. -/
def Receiver.refusal? (n : Receiver) (r : Record) : Option LinkError :=
  match (n.offer r).1 with
  | .error error => some error
  | .ok _ => none

@[simp] theorem Receiver.link_new (address sender : String) : (new address).link sender = .empty :=
  rfl

theorem Receiver.side?_eq_received {address : String} {r : Record} :
    side? address r = some .received ↔ r.rxLinkAddr = address ∧ r.txLinkAddr ≠ address := by
  by_cases here : r.rxLinkAddr = address
  · by_cases own : r.txLinkAddr = address
    · simp [side?, Record.isTransmission, here, own]
    · have other : ¬ address = r.txLinkAddr := fun h => own h.symm
      simp [side?, Record.isTransmission, here, own, other]
  · by_cases own : r.rxLinkAddr = r.txLinkAddr <;> simp [side?, Record.isTransmission, here, own]

theorem Receiver.side?_eq_base {address : String} {r : Record} :
    side? address r = some .base ↔ r.rxLinkAddr = r.txLinkAddr ∧ r.txLinkAddr ≠ address := by
  by_cases own : r.rxLinkAddr = r.txLinkAddr
  · by_cases here : r.txLinkAddr = address <;> simp [side?, Record.isTransmission, own, here]
  · simp [side?, Record.isTransmission, own]

/-- A node files nothing that it sent itself. -/
theorem Receiver.sender_ne_of_side? {address : String} {r : Record} {side : Side}
    (concerned : side? address r = some side) : r.txLinkAddr ≠ address := by
  cases side with
  | received => exact (side?_eq_received.1 concerned).2
  | base => exact (side?_eq_base.1 concerned).2

theorem Receiver.after_of_unconcerned {n : Receiver} {r : Record}
    (unconcerned : side? n.address r = none) : n.after r = n := by
  simp [after, offer, unconcerned]

theorem Receiver.after_of_concerned {n : Receiver} {r : Record} {side : Side}
    (concerned : side? n.address r = some side) :
    n.after r =
      { n with links := n.links.put r.txLinkAddr ((n.link r.txLinkAddr).add side r).2 } := by
  simp [after, offer, concerned]

@[simp] theorem Receiver.after_address (n : Receiver) (r : Record) :
    (n.after r).address = n.address := by
  cases concern : side? n.address r with
  | none => rw [after_of_unconcerned concern]
  | some side => rw [after_of_concerned concern]

/-- A record changes one ledger of a node at most: that of its sender on the side where it
belongs. -/
theorem Receiver.ledger_after (n : Receiver) (r : Record) (sender : String) (side : Side) :
    ((n.after r).link sender).ledger side =
      if side? n.address r = some side ∧ sender = r.txLinkAddr then
        (((n.link sender).ledger side).add r).2
      else (n.link sender).ledger side := by
  cases concern : side? n.address r with
  | none => simp [after_of_unconcerned concern]
  | some filedOn =>
    rw [after_of_concerned concern]
    by_cases same : sender = r.txLinkAddr
    · by_cases here : filedOn = side
      · simp [link, Directory.get?_put, Link.add, Link.ledger_setLedger, same, here]
      · have other : ¬ side = filedOn := fun h => here h.symm
        simp [link, Directory.get?_put, Link.add, Link.ledger_setLedger, same, here, other]
    · simp [link, Directory.get?_put, same]

theorem Receiver.refusal?_of_unconcerned {n : Receiver} {r : Record}
    (unconcerned : side? n.address r = none) : n.refusal? r = none := by
  simp [refusal?, offer, unconcerned]

/-- A node refuses a record exactly if its number is used in the ledger where it belongs. -/
theorem Receiver.refusal?_of_concerned {n : Receiver} {r : Record} {side : Side}
    (concerned : side? n.address r = some side) :
    n.refusal? r =
      if (((n.link r.txLinkAddr).ledger side).add r).1 then none
      else some (side.duplicate r.descriptor r.packetNr) := by
  by_cases filed : (((n.link r.txLinkAddr).ledger side).add r).1 = true
  · simp [refusal?, offer, concerned, Link.add, filed, Except.map]
  · simp [refusal?, offer, concerned, Link.add, filed, Except.map]

theorem Receiver.isSome_refusal?_of_concerned {n : Receiver} {r : Record} {side : Side}
    (concerned : side? n.address r = some side) :
    (n.refusal? r).isSome = !(((n.link r.txLinkAddr).ledger side).add r).1 := by
  rw [refusal?_of_concerned concerned]
  cases (((n.link r.txLinkAddr).ledger side).add r).1 <;> rfl

end RangeTest
