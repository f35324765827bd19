import RangeTest.Correlator
import RangeTest.Link.Statistics

namespace RangeTest

/-- What is reported of the packets sent with one descriptor over one link. -/
structure LinkSummary where
  receiver : String
  sender : String
  descriptor : String
  transmitted : Nat
  received : Nat
  /-- The mean over all packets received; there is none if nothing arrived. -/
  averageRssi : Option Float
  /-- There is none if the packets sent do not span a range of numbers. -/
  lossRatio : Option Float

/-- The loss as the report and the table state it. -/
def LinkSummary.lossPercent (s : LinkSummary) : Option Float :=
  s.lossRatio.map (· * 100.0)

/-- The mean RSSI of what arrived with a descriptor, if anything did. -/
def Link.averageRssi? (l : Link) (descriptor : String) : Option (Except LinkError Float) :=
  if 0 < l.received.count descriptor then some (l.averageAll descriptor .rssi) else none

/-- Sums up one descriptor of a link. -/
def LinkSummary.ofLink (receiver sender : String) (l : Link) (descriptor : String) :
    LinkSummary where
  receiver
  sender
  descriptor
  transmitted := l.base.count descriptor
  received := l.received.count descriptor
  averageRssi := (l.averageRssi? descriptor).bind Except.toOption
  lossRatio := (l.lossAll descriptor).toOption.map Loss.ratio

/-- What an operator should know about one descriptor of a link. -/
def Link.statisticNotices (receiver sender : String) (l : Link) (descriptor : String) :
    List Notice :=
  let average := match l.averageRssi? descriptor with
    | some (.error error) => [.averageUnavailable error]
    | _ => []
  let loss := match l.lossAll descriptor with
    | .error error => [.lossUnavailable receiver sender error]
    | .ok _ => []
  average ++ loss

/-- What an operator should know about a link. -/
def Link.notices (receiver sender : String) (l : Link) : List Notice :=
  l.unmatchedDescriptors.map (.neverTransmitted receiver sender) ++
    l.base.descriptors.flatMap (l.statisticNotices receiver sender)

/-- All links with receiver and sender, ordered by these. -/
def Correlator.links (c : Correlator) : List (String × String × Link) :=
  c.nodes.values.flatMap fun node =>
    node.links.entries.map fun (sender, link) => (node.address, sender, link)

/-- One summary for every descriptor that was transmitted over a link, in the order of the links
and of first transmission. -/
def Correlator.summaries (c : Correlator) : List LinkSummary :=
  c.links.flatMap fun (receiver, sender, link) =>
    link.base.descriptors.map (.ofLink receiver sender link)

def Correlator.notices (c : Correlator) : List Notice :=
  c.links.flatMap fun (receiver, sender, link) => link.notices receiver sender

end RangeTest
