import Mathlib.Algebra.BigOperators.Group.Finset.Basic
import Mathlib.Data.List.Nodup
import RangeTest.Proofs.Correlator.WellFormed
import RangeTest.Proofs.Ledger.Size

namespace RangeTest

/-- The number of packets filed on a side, over all nodes, senders and descriptors. -/
def Correlator.filed (c : Correlator) (side : Side) : Nat :=
  (c.nodes.values.map fun n => (n.links.values.map fun l =>
    ((l.ledger side).descriptors.map (l.ledger side).count).sum).sum).sum

/-- How many nodes a record is handed to as part of the base of its sender, which are all nodes
known after it was taken in but the sender. -/
def Correlator.handedOut (c : Correlator) : Intake → Nat
  | .received _ => 0
  | .transmitted r =>
    if r.isTransmission then (c.take (.transmitted r)).nodes.keys.length - 1 else 0

/-- The number of packets filed with all nodes. -/
def Correlator.size (c : Correlator) : Nat :=
  (c.nodes.values.map Receiver.size).sum

/-- Nodes that did not get to see a record keep their packets. -/
theorem Correlator.size_take (c : Correlator) (i : Intake) :
    (c.take i).size + ((c.audience i).map fun address => (c.nodeAt address).size).sum =
      c.size + ((c.audience i).map fun address =>
        ((c.nodeAt address).after i.record).size).sum := by
  have old (address : String) :
      ((c.nodes.get? address).map Receiver.size).getD 0 = (c.nodeAt address).size := by
    cases found : c.nodes.get? address with
    | none => simp [nodeAt, found]
    | some n => simp [nodeAt, found]
  cases i with
  | received r =>
    have put := Directory.sum_put Receiver.size c.nodes r.rxLinkAddr
      ((c.nodeAt r.rxLinkAddr).after r)
    rw [old] at put
    simpa [take, receive, audience, size, Intake.record] using put
  | transmitted r =>
    have put := Directory.sum_put Receiver.size c.nodes r.rxLinkAddr (c.nodeAt r.rxLinkAddr)
    rw [old] at put
    have registered : (c.register r.rxLinkAddr).size = c.size := Nat.add_right_cancel put
    have nodes := values_eq_map_keys (c.register r.rxLinkAddr)
    rw [← registered]
    simp only [take, transmit, audience, size, Intake.record, Directory.values_map, nodes,
      List.map_map, Function.comp_def, nodeAt_register]
    exact Nat.add_comm ..

/-- Each node that a record concerns files it or counts a duplicate. -/
theorem Correlator.balance_take {c : Correlator} (formed : c.WellFormed) (i : Intake) :
    (c.take i).size + (c.take i).duplicates = c.size + c.duplicates +
      (c.audience i).countP fun address => (Receiver.side? address i.record).isSome := by
  have sums (addresses : List String) :
      (addresses.map fun address => ((c.nodeAt address).after i.record).size).sum +
          addresses.countP (fun address => ((c.nodeAt address).refusal? i.record).isSome) =
        (addresses.map fun address => (c.nodeAt address).size).sum +
          addresses.countP fun address => (Receiver.side? address i.record).isSome := by
    induction addresses with
    | nil => rfl
    | cons address rest ih =>
      have node := (c.nodeAt address).size_after i.record
      rw [(formed.nodeAt address).1] at node
      simp only [toNat_eq_ite] at node
      simp only [List.map_cons, List.sum_cons, List.countP_cons] at ih ⊢
      omega
  have total := size_take c i
  have refused := duplicates_take c i
  have audience := sums (c.audience i)
  omega

/-- A reception concerns the node that it names as receiver, a transmission every other node. -/
theorem Receiver.isSome_side? (address : String) (r : Record) :
    (side? address r).isSome = (r.isTransmission != (address == r.rxLinkAddr)) := by
  by_cases own : r.isTransmission = true
  · by_cases here : address = r.rxLinkAddr
    · simp [side?, own, here]
    · have other : ¬ r.rxLinkAddr = address := fun h => here h.symm
      simp [side?, own, here, other]
  · by_cases here : address = r.rxLinkAddr
    · simp [side?, own, here]
    · have other : ¬ r.rxLinkAddr = address := fun h => here h.symm
      simp [side?, own, here, other]

/-- A reception concerns one node of those that see it. A transmission concerns none of them if it
stands in the receive log, and all but the sender otherwise. -/
theorem Correlator.countP_concerned (c : Correlator) (i : Intake) :
    ((c.audience i).countP fun address => (Receiver.side? address i.record).isSome) =
      (!i.record.isTransmission).toNat + c.handedOut i := by
  simp only [Receiver.isSome_side?]
  cases i with
  | received r => cases own : r.isTransmission <;> simp [audience, handedOut, Intake.record, own]
  | transmitted r =>
    have once : (c.audience (.transmitted r)).countP (· == r.rxLinkAddr) = 1 :=
      List.count_eq_one_of_mem (audience_nodup ..) (mem_audience_transmitted.2 (Or.inl rfl))
    have keys : (c.take (.transmitted r)).nodes.keys = c.audience (.transmitted r) :=
      Directory.keys_map ..
    cases own : r.isTransmission with
    | false => simpa [handedOut, Intake.record, own] using once
    | true =>
      have parts := List.length_eq_countP_add_countP (· == r.rxLinkAddr)
        (l := c.audience (.transmitted r))
      simp only [handedOut, Intake.record, own, keys, Bool.true_bne] at parts ⊢
      simp only [Bool.not_eq_true, Bool.decide_eq_false] at parts
      simp only [Bool.not_true, Bool.toNat_false, if_true]
      omega

/-- On well-formed links the counts by descriptor leave no packet out. -/
theorem Correlator.size_eq_filed {c : Correlator} (formed : c.WellFormed) :
    c.filed .received + c.filed .base = c.size := by
  have link (n : Receiver) (node : n.WellFormed) (l : Link) (member : l ∈ n.links.values)
      (side : Side) : ((l.ledger side).descriptors.map (l.ledger side).count).sum =
        (l.ledger side).size := by
    obtain ⟨entry, atEntry, rfl⟩ := List.mem_map.1 member
    exact Ledger.sum_count ((node.links entry atEntry).ledgers side).distinct
  have node (n : Receiver) (member : n ∈ c.nodes.values) (side : Side) :
      (n.links.values.map fun l =>
        ((l.ledger side).descriptors.map (l.ledger side).count).sum).sum =
        (n.links.values.map fun l => (l.ledger side).size).sum := by
    obtain ⟨entry, atEntry, rfl⟩ := List.mem_map.1 member
    exact congrArg List.sum (List.map_congr_left fun l atLink =>
      link entry.2 (formed.nodes entry atEntry) l atLink side)
  have whole (side : Side) : c.filed side = (c.nodes.values.map fun n =>
      (n.links.values.map fun l => (l.ledger side).size).sum).sum :=
    congrArg List.sum (List.map_congr_left fun n member => node n member side)
  rw [whole, whole, ← List.sum_map_add, size]
  simp only [← List.sum_map_add]
  rfl

/-- What was handed out in the course of a history. -/
def Correlator.handedOutIn (history : List Intake) : Nat :=
  ∑ k ∈ Finset.range history.length, history[k]?.elim 0 (run (history.take k)).handedOut

theorem Correlator.handedOutIn_concat (history : List Intake) (i : Intake) :
    handedOutIn (history ++ [i]) = handedOutIn history + (run history).handedOut i := by
  unfold handedOutIn
  rw [List.length_append, List.length_singleton, Finset.sum_range_succ]
  congr 1
  · refine Finset.sum_congr rfl fun k below => ?_
    have inside := Finset.mem_range.1 below
    rw [List.getElem?_append_left inside, List.take_append_of_le_length inside.le]
  · simp

/-- Over a whole history, what was filed and what was refused adds up to what was offered. -/
theorem Correlator.size_add_duplicates_run (history : List Intake) :
    (run history).size + (run history).duplicates =
      history.countP (fun i => !i.record.isTransmission) + handedOutIn history := by
  induction history using List.reverseRecOn with
  | nil => rfl
  | append_singleton history i ih =>
    have step := balance_take (.run history) i
    rw [countP_concerned] at step
    rw [run_concat, handedOutIn_concat, List.countP_append, List.countP_singleton]
    simp only [toNat_eq_ite] at step
    omega

/-- A node that logs a transmission as received is not concerned by it. -/
theorem Correlator.WellFormed.unconcerned_of_own {c : Correlator} (formed : c.WellFormed)
    {r : Record} (own : r.isTransmission) :
    Receiver.side? (c.nodeAt r.rxLinkAddr).address r = none := by
  rw [(formed.nodeAt r.rxLinkAddr).1]
  simp [Receiver.side?, own]

theorem Correlator.WellFormed.nodeAt_take_own {c : Correlator} (formed : c.WellFormed) {r : Record}
    (own : r.isTransmission) (address : String) :
    (c.take (.received r)).nodeAt address = c.nodeAt address := by
  rw [nodeAt_take]
  split
  · rename_i sees
    have here : address = r.rxLinkAddr := mem_audience_received.1 sees
    exact here ▸ Receiver.after_of_unconcerned (formed.unconcerned_of_own own)
  · rfl

theorem Correlator.WellFormed.duplicates_take_own {c : Correlator} (formed : c.WellFormed)
    {r : Record} (own : r.isTransmission) :
    (c.take (.received r)).duplicates = c.duplicates := by
  have accepted := Receiver.refusal?_of_unconcerned (formed.unconcerned_of_own own)
  simp [duplicates_take, audience, Intake.record, accepted]

/-- No packet is lost or counted twice, whatever records were taken in, from which logs and in
which order: what is filed on either side of all links, together with the duplicates, is one packet
for every reception and for every transmission one packet for each node it was handed out to. A
transmission in the receive log files nothing and is no duplicate. A transmission in the transmit
log is filed by every known node but its sender that has not got its number, so that the refusal of
one node does not keep it from others. -/
theorem Correlator.run_conservation (history : List Intake) :
    (run history).filed .received + (run history).filed .base + (run history).duplicates =
      history.countP (fun i => !i.record.isTransmission) +
        ∑ k ∈ Finset.range history.length, history[k]?.elim 0 (run (history.take k)).handedOut ∧
    (∀ r : Record, r.isTransmission →
      (run (history ++ [.received r])).duplicates = (run history).duplicates ∧
      ∀ address, (run (history ++ [.received r])).nodeAt address =
        (run history).nodeAt address) ∧
    ∀ r : Record, r.isTransmission →
      ∀ receiver ∈ (run (history ++ [.transmitted r])).nodes.keys, receiver ≠ r.txLinkAddr →
        let before := (run history).packets .base receiver r.txLinkAddr r.descriptor
        (run (history ++ [.transmitted r])).packets .base receiver r.txLinkAddr r.descriptor =
          if r.packetNr ∈ before.map (·.packetNr) then before else before ++ [r] := by
  have formed := WellFormed.run history
  refine ⟨?_, ?_, ?_⟩
  · rw [size_eq_filed formed]
    exact size_add_duplicates_run history
  · intro r own
    rw [run_concat]
    exact ⟨formed.duplicates_take_own own, formed.nodeAt_take_own own⟩
  · intro r own receiver known other
    rw [run_concat] at known ⊢
    have sees : receiver ∈ (run history).audience (.transmitted r) :=
      mem_audience_transmitted.2 (mem_keys_take.1 known)
    have same : r.rxLinkAddr = r.txLinkAddr := by simpa [Record.isTransmission] using own
    exact formed.packets_take sees (Receiver.side?_eq_base.2 ⟨same, other.symm⟩)

end RangeTest
