import RangeTest.Link.Ledger

namespace RangeTest

inductive LinkError where
  | duplicatePacket (descriptor : String) (packetNr : UInt32)
  | duplicateBase (descriptor : String) (packetNr : UInt32)
  | noReceived (descriptor : String)
  | noTransmitted (descriptor : String)
  | invalidSampleCount
  | notEnoughSamples (requested available : Nat)
  /-- The packet numbers do not increase over the packets looked at. -/
  | degenerateSequence (descriptor : String) (first last : UInt32)
  deriving DecidableEq, Repr

/-- Names a packet that was logged before. -/
def LinkError.repeated (descriptor : String) (packetNr : UInt32) : String :=
  s!"A message with RF descriptor {descriptor} and packet nr. {packetNr.toNat} " ++
    "has already been added"

def LinkError.message : LinkError → String
  | duplicatePacket descriptor packetNr => repeated descriptor packetNr
  | duplicateBase descriptor packetNr => repeated descriptor packetNr ++ " to base"
  | noReceived descriptor => s!"There are no received messages with descriptor {descriptor}"
  | noTransmitted descriptor => s!"There were no sent messages with descriptor {descriptor}"
  | invalidSampleCount => "Cannot process zero messages"
  | notEnoughSamples requested available =>
    "There are not enough messages to process: " ++
      s!"requested {requested}, available {available}"
  | degenerateSequence descriptor first last =>
    s!"Packet numbers for descriptor {descriptor} do not increase " ++
      s!"(first {first.toNat}, last {last.toNat})"

/-- The two sides on which the packets of a link are logged. -/
inductive Side where
  /-- What the receiver logged. -/
  | received
  /-- What the sender logged as transmitted, the base that loss is measured against. -/
  | base
  deriving DecidableEq, Repr

/-- Why a side refuses a packet whose number is used. -/
def Side.duplicate : Side → String → UInt32 → LinkError
  | received => .duplicatePacket
  | base => .duplicateBase

/-- What is known of the packets from one sender to one receiver. -/
structure Link where
  received : Ledger
  base : Ledger

def Link.empty : Link where
  received := .empty
  base := .empty

def Link.ledger (l : Link) : Side → Ledger
  | .received => l.received
  | .base => l.base

def Link.setLedger (l : Link) (ledger : Ledger) : Side → Link
  | .received => { l with received := ledger }
  | .base => { l with base := ledger }

/-- Files a packet that was logged on a side. -/
def Link.add (l : Link) (side : Side) (r : Record) : Except LinkError Unit × Link :=
  let (filed, ledger) := (l.ledger side).add r
  (if filed then .ok () else .error (side.duplicate r.descriptor r.packetNr),
    l.setLedger ledger side)

def Link.addReceived (l : Link) (r : Record) : Except LinkError Unit × Link :=
  l.add .received r

def Link.addBase (l : Link) (r : Record) : Except LinkError Unit × Link :=
  l.add .base r

@[simp] theorem Link.ledger_empty (side : Side) : empty.ledger side = .empty := by
  cases side <;> rfl

theorem Link.ledger_setLedger (l : Link) (ledger : Ledger) (side other : Side) :
    (l.setLedger ledger side).ledger other = if other = side then ledger else l.ledger other := by
  cases side <;> cases other <;> rfl

/-- The descriptors that were received and never logged as transmitted. -/
def Link.unmatchedDescriptors (l : Link) : List String :=
  l.received.descriptors.filter fun descriptor => (l.base.bucket? descriptor).isNone

end RangeTest
