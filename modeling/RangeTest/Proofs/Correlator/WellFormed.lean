import RangeTest.Proofs.Correlator.History
import RangeTest.Proofs.Ledger.WellFormed

namespace RangeTest

/-- The records that belong on a side of the link from a sender to a receiver. -/
def Side.Admits (receiver sender : String) : Side → Record → Prop
  | received, r => r.rxLinkAddr = receiver ∧ r.txLinkAddr = sender
  | base, r => r.rxLinkAddr = sender ∧ r.txLinkAddr = sender

/-- What holds of the link from a sender to a receiver. There is no link without a packet. -/
structure Link.WellFormed (receiver sender : String) (l : Link) : Prop where
  ledgers : ∀ side, (l.ledger side).WellFormed (side.Admits receiver sender)
  nonempty : ∃ side descriptor packet, packet ∈ (l.ledger side).packets descriptor

/-- What holds of a node. It has no link to itself. -/
structure Receiver.WellFormed (n : Receiver) : Prop where
  noSelf : n.address ∉ n.links.keys
  links : ∀ entry ∈ n.links.entries, entry.2.WellFormed n.address entry.1

/-- What holds of a correlator. Every node stands under its own address. -/
structure Correlator.WellFormed (c : Correlator) : Prop where
  keyed : ∀ entry ∈ c.nodes.entries, entry.1 = entry.2.address
  nodes : ∀ entry ∈ c.nodes.entries, entry.2.WellFormed

theorem Receiver.admits_of_side? {address : String} {r : Record} {side : Side}
    (concerned : side? address r = some side) : side.Admits address r.txLinkAddr r := by
  cases side with
  | received => exact ⟨(side?_eq_received.1 concerned).1, rfl⟩
  | base => exact ⟨(side?_eq_base.1 concerned).1, rfl⟩

theorem Receiver.WellFormed.new (address : String) : (Receiver.new address).WellFormed where
  noSelf := by simp [Receiver.new, Directory.empty, Directory.keys]
  links := by simp [Receiver.new, Directory.empty]

/-- A link that is opened on demand has sound ledgers like one that is there. -/
theorem Receiver.WellFormed.ledgers_link {n : Receiver} (formed : n.WellFormed) (sender : String)
    (side : Side) : ((n.link sender).ledger side).WellFormed (side.Admits n.address sender) := by
  cases found : n.links.get? sender with
  | none => simpa [Receiver.link, found] using Ledger.WellFormed.empty _
  | some l =>
    have known := formed.links _ (Directory.get?_eq_some_iff.1 found)
    simpa [Receiver.link, found] using known.ledgers side

theorem Link.WellFormed.add {receiver sender : String} {l : Link} {side : Side} {r : Record}
    (ledgers : ∀ side, (l.ledger side).WellFormed (side.Admits receiver sender))
    (admitted : side.Admits receiver sender r) : (l.add side r).2.WellFormed receiver sender where
  ledgers := by
    intro other
    rw [Link.add, ledger_setLedger]
    split
    · rename_i same
      exact same ▸ (ledgers side).add admitted
    · exact ledgers other
  nonempty := by
    obtain ⟨packet, member⟩ := (ledgers side).exists_packet_add r
    exact ⟨side, r.descriptor, packet, by rwa [Link.add, ledger_setLedger, if_pos rfl]⟩

/-- Whatever record a node is shown, filed, refused or ignored, it stays well-formed. -/
theorem Receiver.WellFormed.after {n : Receiver} (formed : n.WellFormed) (r : Record) :
    (n.after r).WellFormed := by
  cases concern : side? n.address r with
  | none => rwa [after_of_unconcerned concern]
  | some side =>
    rw [after_of_concerned concern]
    constructor
    · intro member
      rcases Directory.mem_keys_put.1 member with same | old
      · exact sender_ne_of_side? concern same.symm
      · exact formed.noSelf old
    · intro entry member
      rcases Directory.mem_entries_put.1 member with rfl | ⟨_, old⟩
      · exact .add (formed.ledgers_link r.txLinkAddr) (admits_of_side? concern)
      · exact formed.links entry old

theorem Correlator.WellFormed.empty : Correlator.empty.WellFormed where
  keyed := by simp [Correlator.empty, Directory.empty]
  nodes := by simp [Correlator.empty, Directory.empty]

theorem Correlator.WellFormed.nodeAt {c : Correlator} (formed : c.WellFormed) (address : String) :
    (c.nodeAt address).address = address ∧ (c.nodeAt address).WellFormed := by
  by_cases known : address ∈ c.nodes.keys
  · have member := nodeAt_mem known
    exact ⟨(formed.keyed _ member).symm, formed.nodes _ member⟩
  · rw [nodeAt_of_not_mem known]
    exact ⟨rfl, .new address⟩

/-- One record keeps a correlator well-formed, from whichever log it comes. -/
theorem Correlator.WellFormed.take {c : Correlator} (formed : c.WellFormed) (i : Intake) :
    (c.take i).WellFormed := by
  have changed (address : String) : ((c.take i).nodeAt address).address = address ∧
      ((c.take i).nodeAt address).WellFormed := by
    obtain ⟨keyed, node⟩ := formed.nodeAt address
    rw [nodeAt_take]
    split
    · exact ⟨(Receiver.after_address ..).trans keyed, node.after i.record⟩
    · exact ⟨keyed, node⟩
  constructor
  · intro entry member
    rw [← nodeAt_of_mem member, (changed entry.1).1]
  · intro entry member
    rw [← nodeAt_of_mem member]
    exact (changed entry.1).2

theorem Correlator.WellFormed.run (history : List Intake) : (run history).WellFormed := by
  induction history using List.reverseRecOn with
  | nil => exact .empty
  | append_singleton history i ih => exact run_concat history i ▸ ih.take i

/-- A node that sees a record which concerns it files it unless it has the number already. Nothing
depends on what other nodes do with the record. -/
theorem Correlator.WellFormed.packets_take {c : Correlator} (formed : c.WellFormed) {i : Intake}
    {side : Side} {receiver : String} (sees : receiver ∈ c.audience i)
    (concerned : Receiver.side? receiver i.record = some side) :
    (c.take i).packets side receiver i.record.txLinkAddr i.record.descriptor =
      if i.record.packetNr ∈
          (c.packets side receiver i.record.txLinkAddr i.record.descriptor).map (·.packetNr) then
        c.packets side receiver i.record.txLinkAddr i.record.descriptor
      else c.packets side receiver i.record.txLinkAddr i.record.descriptor ++ [i.record] := by
  obtain ⟨keyed, node⟩ := formed.nodeAt receiver
  have sound := (node.ledgers_link i.record.txLinkAddr side).bucket_sound i.record.descriptor
  rw [packets, nodeAt_take, if_pos sees, Receiver.ledger_after, keyed,
    if_pos ⟨concerned, rfl⟩, Ledger.packets, Ledger.bucket_add, if_pos rfl, sound.packets_add]
  rfl

/-- Whatever records were taken in, from which logs and in which order: every node stands under its
own address and has no link to itself, and every link holds a packet. On either side of a link no
descriptor occurs twice and none is without packets, the packets have the addresses and the
descriptor under which they are filed, their numbers are distinct, and just these are noted. -/
theorem Correlator.run_invariant (history : List Intake) :
    (∀ node ∈ (run history).nodes.entries,
      node.1 = node.2.address ∧ node.1 ∉ node.2.links.keys) ∧
    ∀ node ∈ (run history).nodes.entries, ∀ link ∈ node.2.links.entries,
      (∃ side descriptor packet, packet ∈ (link.2.ledger side).packets descriptor) ∧
      ∀ side, (link.2.ledger side).descriptors.Nodup ∧
        ∀ entry ∈ (link.2.ledger side).buckets,
          entry.2.packets ≠ [] ∧
          (entry.2.packets.map (·.packetNr)).Nodup ∧
          (∀ number, number ∈ entry.2.numbers ↔ ∃ r ∈ entry.2.packets, r.packetNr = number) ∧
          ∀ r ∈ entry.2.packets, r.descriptor = entry.1 ∧ r.txLinkAddr = link.1 ∧
            match side with
            | .received => r.rxLinkAddr = node.1
            | .base => r.rxLinkAddr = link.1 := by
  have formed := WellFormed.run history
  constructor
  · intro node member
    have keyed := formed.keyed node member
    exact ⟨keyed, keyed ▸ (formed.nodes node member).noSelf⟩
  · intro node member link atLink
    have inLink := (formed.nodes node member).links link atLink
    refine ⟨inLink.nonempty, fun side => ⟨(inLink.ledgers side).distinct, ?_⟩⟩
    intro entry atEntry
    obtain ⟨nonempty, sound⟩ := (inLink.ledgers side).buckets entry atEntry
    refine ⟨nonempty, sound.distinct, sound.indexed, ?_⟩
    intro r packet
    obtain ⟨admitted, descriptor⟩ := sound.belongs r packet
    rw [formed.keyed node member]
    cases side with
    | received => exact ⟨descriptor, admitted.2, admitted.1⟩
    | base => exact ⟨descriptor, admitted.2, admitted.1⟩

end RangeTest
