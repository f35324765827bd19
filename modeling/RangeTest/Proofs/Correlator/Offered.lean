import Mathlib.Data.List.TakeWhile
import RangeTest.Proofs.Correlator.History
import RangeTest.Proofs.Ledger.Firsts

namespace RangeTest

/-- Whether a node that is known gets to see a record. -/
def Intake.reaches (address : String) : Intake → Bool
  | .received r => r.rxLinkAddr == address
  | .transmitted _ => true

/-- The records that a node got to see in the course of a history. The first one is that which
named it as receiver and so made it known. -/
def Receiver.shown (address : String) (history : List Intake) : List Record :=
  ((history.dropWhile (·.record.rxLinkAddr != address)).filter (·.reaches address)).map (·.record)

/-- The records that a node was to file on a side of its link to a sender, with repetitions. -/
def Receiver.offered (address : String) (side : Side) (sender : String) (history : List Intake) :
    List Record :=
  (shown address history).filter fun r => side? address r == some side && r.txLinkAddr == sender

/-- A node sees a record exactly if it belongs to the audience at that time. -/
theorem Receiver.shown_concat (address : String) (history : List Intake) (i : Intake) :
    shown address (history ++ [i]) = shown address history ++
      if address ∈ (Correlator.run history).audience i then [i.record] else [] := by
  by_cases known : address ∈ (Correlator.run history).nodes.keys
  · obtain ⟨first, member, named⟩ := Correlator.mem_keys_run.1 known
    have met : (history.dropWhile (·.record.rxLinkAddr != address)).isEmpty = false := by
      rw [List.isEmpty_eq_false_iff, ne_eq, List.dropWhile_eq_nil_iff]
      intro unnamed
      simpa [named] using unnamed first member
    simp only [shown, List.dropWhile_append, met, Bool.false_eq_true, if_false,
      List.filter_append, List.map_append, List.append_cancel_left_eq]
    cases i with
    | received r =>
      by_cases here : address = r.rxLinkAddr
      · simp [Intake.reaches, here]
      · have other : ¬ r.rxLinkAddr = address := fun h => here h.symm
        simp [Intake.reaches, here, other]
    | transmitted r => simp [Intake.reaches, known]
  · have unnamed : ∀ old ∈ history, (old.record.rxLinkAddr != address) = true := by
      intro old member
      have differs : old.record.rxLinkAddr ≠ address :=
        fun named => known (Correlator.mem_keys_run.2 ⟨old, member, named⟩)
      simpa using differs
    simp only [shown, List.dropWhile_append_of_pos unnamed, List.dropWhile_eq_nil_iff.2 unnamed,
      List.filter_nil, List.map_nil, List.nil_append]
    cases i with
    | received r =>
      by_cases here : address = r.rxLinkAddr
      · simp [Intake.reaches, Intake.record, here]
      · have other : ¬ r.rxLinkAddr = address := fun h => here h.symm
        simp [Intake.record, here, other]
    | transmitted r =>
      by_cases here : address = r.rxLinkAddr
      · simp [Intake.reaches, Intake.record, here]
      · have other : ¬ r.rxLinkAddr = address := fun h => here h.symm
        simp [Intake.record, here, other, known]

theorem Receiver.offered_concat (address : String) (side : Side) (sender : String)
    (history : List Intake) (i : Intake) :
    offered address side sender (history ++ [i]) = offered address side sender history ++
      if address ∈ (Correlator.run history).audience i ∧ side? address i.record = some side ∧
        sender = i.record.txLinkAddr then [i.record] else [] := by
  rw [offered, shown_concat, List.filter_append, ← offered]
  by_cases sees : address ∈ (Correlator.run history).audience i
  · by_cases concerned : side? address i.record = some side
    · by_cases same : sender = i.record.txLinkAddr
      · simp [sees, concerned, same]
      · have other : ¬ i.record.txLinkAddr = sender := fun h => same h.symm
        simp [sees, concerned, same, other]
    · simp [sees, concerned]
  · simp [sees]

/-- A node's ledgers hold what it was to file and nothing else. -/
theorem Correlator.ledger_run (history : List Intake) (side : Side) (receiver sender : String) :
    (((run history).nodeAt receiver).link sender).ledger side =
      .ofRecords (Receiver.offered receiver side sender history) := by
  induction history using List.reverseRecOn with
  | nil => simp [Receiver.offered, Receiver.shown, Ledger.ofRecords]
  | append_singleton history i ih =>
    rw [run_concat, nodeAt_take, Receiver.offered_concat]
    by_cases sees : receiver ∈ (run history).audience i
    · rw [if_pos sees, Receiver.ledger_after, address_nodeAt_run, ih]
      by_cases filed : Receiver.side? receiver i.record = some side ∧ sender = i.record.txLinkAddr
      · rw [if_pos filed, if_pos ⟨sees, filed⟩, Ledger.ofRecords_concat]
      · rw [if_neg filed, if_neg fun all => filed all.2, List.append_nil]
    · rw [if_neg sees, if_neg fun all => sees all.1, List.append_nil, ih]

/-- Of the packets that a node was to file with a descriptor it keeps the first of every number. -/
theorem Correlator.packets_run (history : List Intake) (side : Side)
    (receiver sender descriptor : String) :
    (run history).packets side receiver sender descriptor = Record.firsts
      ((Receiver.offered receiver side sender history).filter (·.descriptor == descriptor)) := by
  rw [packets, ledger_run, Ledger.packets_ofRecords]

/-- A node refuses a record if it was to file one with the same descriptor and number before. -/
theorem Correlator.isSome_refusal?_run {history : List Intake} {receiver : String} {r : Record}
    {side : Side} (concerned : Receiver.side? receiver r = some side) :
    (((run history).nodeAt receiver).refusal? r).isSome = decide (r.packetNr ∈
      ((Receiver.offered receiver side r.txLinkAddr history).filter
        (·.descriptor == r.descriptor)).map (·.packetNr)) := by
  rw [Receiver.isSome_refusal?_of_concerned (by rwa [address_nodeAt_run]), ledger_run,
    Ledger.add_ofRecords, Bool.not_not]

end RangeTest
