import RangeTest.Link.Basic

namespace RangeTest

/-- The first packets of a bucket, as many as asked for and at least one. -/
def Ledger.sample (l : Ledger) (descriptor : String) (amount : Nat) (absent : LinkError) :
    Except LinkError (List Record) :=
  match l.bucket? descriptor with
  | none => .error absent
  | some bucket =>
    if amount = 0 then .error .invalidSampleCount
    else if bucket.packets.length < amount then
      .error (.notEnoughSamples amount bucket.packets.length)
    else .ok (bucket.packets.take amount)

/-- The mean of a quantity over the first `amount` packets received with a descriptor. -/
def Link.average (l : Link) (descriptor : String) (quantity : Quantity) (amount : Nat) :
    Except LinkError Float := do
  let packets ← l.received.sample descriptor amount (.noReceived descriptor)
  let sum := packets.foldl (fun sum r => sum + Float.ofInt (r.quantity quantity)) 0
  return sum / Float.ofNat amount

/-- The mean of a quantity over all packets received with a descriptor. -/
def Link.averageAll (l : Link) (descriptor : String) (quantity : Quantity) :
    Except LinkError Float :=
  l.average descriptor quantity (l.received.count descriptor)

/-- How many of the packets sent were lost. -/
inductive Loss where
  /-- Nothing arrived at all. -/
  | whole
  /-- The packets lost, out of the span of packet numbers that was looked at. -/
  | counted (lost total : Nat)
  deriving DecidableEq, Repr

/-- The share of the packets that was lost. -/
def Loss.ratio : Loss → Float
  | whole => 1.0
  | counted lost total => Float.ofNat lost / Float.ofNat total

/-- How many packet numbers there are from one to another, worked out in signed words of 64 bits. It
is not positive if the other one comes first. -/
def Loss.span (first last : UInt32) : Int64 :=
  .ofNat last.toNat - .ofNat first.toNat + 1

/-- Compares packets sent with the packets that arrived. The span of the packet numbers is what the
loss is measured against, so it has to be positive. -/
def Loss.measure (descriptor : String) (sent : List Record) (arrived : Bucket) :
    Except LinkError Loss :=
  match sent.head?, sent.getLast? with
  | some first, some last =>
    let lost := sent.countP fun r => !arrived.numbers.contains r.packetNr
    let total := span first.packetNr last.packetNr
    if total ≤ 0 then .error (.degenerateSequence descriptor first.packetNr last.packetNr)
    else .ok (.counted lost total.toNatClampNeg)
  | _, _ => .error .invalidSampleCount

/-- The loss among the first `amount` packets sent with a descriptor. -/
def Link.loss (l : Link) (descriptor : String) (amount : Nat) : Except LinkError Loss := do
  let sent ← l.base.sample descriptor amount (.noTransmitted descriptor)
  match l.received.bucket? descriptor with
  | none => return .whole
  | some arrived => Loss.measure descriptor sent arrived

/-- The loss among all packets sent with a descriptor. -/
def Link.lossAll (l : Link) (descriptor : String) : Except LinkError Loss :=
  l.loss descriptor (l.base.count descriptor)

end RangeTest
