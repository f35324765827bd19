import RangeTest.Proofs.Correlator.Duplicates
import RangeTest.Proofs.Correlator.WellFormed

namespace RangeTest

/-- The records of what a node received from another one with a descriptor. -/
def Record.receptions (records : List Record) (receiver sender descriptor : String) :
    List Record :=
  records.filter fun r =>
    r.rxLinkAddr = receiver ∧ r.txLinkAddr = sender ∧ receiver ≠ sender ∧ r.descriptor = descriptor

/-- The records of what a node transmitted with a descriptor. -/
def Record.transmissions (records : List Record) (sender descriptor : String) : List Record :=
  records.filter fun r =>
    r.rxLinkAddr = sender ∧ r.txLinkAddr = sender ∧ r.descriptor = descriptor

/-- The place in the transmit log from which on a receiver is known: the beginning if the receive
log names it, and otherwise the first record that does. -/
def Record.entrance (received transmitted : List Record) (receiver : String) : Nat :=
  if receiver ∈ received.map (·.rxLinkAddr) then 0
  else transmitted.findIdx (·.rxLinkAddr == receiver)

/-- The history of a correlator that takes in one log after the other. -/
def Intake.logs (received transmitted : List Record) : List Intake :=
  received.map .received ++ transmitted.map .transmitted

theorem Intake.map_record_logs (received transmitted : List Record) :
    (logs received transmitted).map record = received ++ transmitted := by
  simp [logs, Function.comp_def, record]

/-- What a node received does not depend on when it became known, since its first reception makes it
known. -/
theorem Receiver.offered_received (address sender : String) (history : List Intake) :
    offered address .received sender history = (history.map (·.record)).filter fun r =>
      side? address r == some .received && r.txLinkAddr == sender := by
  induction history using List.reverseRecOn with
  | nil => rfl
  | append_singleton history i ih =>
    rw [offered_concat, ih, List.map_append, List.filter_append]
    by_cases concerned : side? address i.record = some .received
    · have named := (side?_eq_received.1 concerned).1.symm
      have sees : address ∈ (Correlator.run history).audience i := by
        cases i with
        | received r => exact Correlator.mem_audience_received.2 named
        | transmitted r => exact Correlator.mem_audience_transmitted.2 (Or.inl named)
      by_cases same : sender = i.record.txLinkAddr
      · simp [concerned, sees, same]
      · have other : ¬ i.record.txLinkAddr = sender := fun h => same h.symm
        simp [concerned, sees, same, other]
    · simp [concerned]

/-- A node sees of the receive log only what it logged itself, and no base is among that. -/
theorem Receiver.side?_ne_base_of_reaches {address : String} {r : Record}
    (reached : (Intake.received r).reaches address) : side? address r ≠ some .base := by
  have own : r.rxLinkAddr = address := by simpa [Intake.reaches] using reached
  intro concerned
  obtain ⟨transmission, other⟩ := side?_eq_base.1 concerned
  exact other (transmission.symm.trans own)

/-- The part of a transmit log that a node sees from some place on. -/
theorem Intake.map_record_transmitted (address : String) (records : List Record) :
    ((records.map transmitted).filter (·.reaches address)).map record = records := by
  rw [List.filter_map, List.map_map]
  simp [Function.comp_def, reaches, record]

/-- The base of a node begins where the node becomes known in the transmit log. -/
theorem Receiver.offered_base (address sender : String) (received transmitted : List Record) :
    offered address .base sender (Intake.logs received transmitted) =
      (transmitted.drop (Record.entrance received transmitted address)).filter fun r =>
        side? address r == some .base && r.txLinkAddr == sender := by
  rw [offered, shown, Intake.logs, Record.entrance]
  by_cases known : address ∈ received.map (·.rxLinkAddr)
  · have met : ((received.map Intake.received).dropWhile
        (·.record.rxLinkAddr != address)).isEmpty = false := by
      obtain ⟨first, member, named⟩ := List.mem_map.1 known
      rw [List.isEmpty_eq_false_iff, ne_eq, List.dropWhile_eq_nil_iff]
      intro unnamed
      simpa [Intake.record, named] using unnamed _ (List.mem_map_of_mem member)
    have nothing : ((((received.map Intake.received).dropWhile
        (·.record.rxLinkAddr != address)).filter (·.reaches address)).map (·.record)).filter
          (fun r => side? address r == some .base && r.txLinkAddr == sender) = [] := by
      refine List.filter_eq_nil_iff.2 fun r member => ?_
      obtain ⟨i, seen, rfl⟩ := List.mem_map.1 member
      obtain ⟨old, reached⟩ := List.mem_filter.1 seen
      obtain ⟨r, _, rfl⟩ := List.mem_map.1 ((List.dropWhile_sublist _).mem old)
      simpa [Intake.record] using fun concerned =>
        absurd concerned (side?_ne_base_of_reaches reached)
    rw [if_pos known, List.dropWhile_append, met, if_neg Bool.false_ne_true, List.filter_append,
      List.map_append, List.filter_append, nothing, Intake.map_record_transmitted,
      List.drop_zero, List.nil_append]
  · have unnamed : ∀ i ∈ received.map Intake.received,
        (i.record.rxLinkAddr != address) = true := by
      intro i member
      obtain ⟨r, old, rfl⟩ := List.mem_map.1 member
      have differs : r.rxLinkAddr ≠ address := fun named => known (List.mem_map.2 ⟨r, old, named⟩)
      simpa [Intake.record] using differs
    rw [if_neg known, List.dropWhile_append_of_pos unnamed, List.dropWhile_map,
      Intake.map_record_transmitted, List.dropWhile_eq_drop_findIdx_not]
    simp [Intake.record, bne]

theorem Record.filter_offered_received (records : List Record)
    (receiver sender descriptor : String) :
    (records.filter fun r =>
        Receiver.side? receiver r == some .received && r.txLinkAddr == sender).filter
          (·.descriptor == descriptor) = receptions records receiver sender descriptor := by
  rw [List.filter_filter]
  refine List.filter_congr fun r _ => ?_
  rw [Bool.eq_iff_iff]
  simp only [Bool.and_eq_true, beq_iff_eq, decide_eq_true_eq, Receiver.side?_eq_received]
  constructor
  · rintro ⟨descr, ⟨rx, other⟩, tx⟩
    exact ⟨rx, tx, fun same => other (tx.trans same.symm), descr⟩
  · rintro ⟨rx, tx, other, descr⟩
    exact ⟨descr, ⟨rx, fun same => other (same.symm.trans tx)⟩, tx⟩

theorem Record.filter_offered_base (records : List Record) {receiver sender : String}
    (other : sender ≠ receiver) (descriptor : String) :
    (records.filter fun r =>
        Receiver.side? receiver r == some .base && r.txLinkAddr == sender).filter
          (·.descriptor == descriptor) = transmissions records sender descriptor := by
  rw [List.filter_filter]
  refine List.filter_congr fun r _ => ?_
  rw [Bool.eq_iff_iff]
  simp only [Bool.and_eq_true, beq_iff_eq, decide_eq_true_eq, Receiver.side?_eq_base]
  constructor
  · rintro ⟨descr, ⟨same, _⟩, tx⟩
    exact ⟨same.trans tx, tx, descr⟩
  · rintro ⟨rx, tx, descr⟩
    exact ⟨descr, ⟨rx.trans tx.symm, fun same => other (tx.symm.trans same)⟩, tx⟩

theorem Receiver.offered_base_self (address : String) (history : List Intake) :
    offered address .base address history = [] := by
  refine List.filter_eq_nil_iff.2 fun r _ concerned => ?_
  obtain ⟨base, same⟩ := Bool.and_eq_true_iff.1 concerned
  exact (side?_eq_base.1 (by simpa using base)).2 (by simpa using same)

/-- The receptions filed after one log and then the other are the first ones of every number. -/
theorem Correlator.packets_logs_received (received transmitted : List Record)
    (receiver sender descriptor : String) :
    (run (Intake.logs received transmitted)).packets .received receiver sender descriptor =
      Record.firsts
        (Record.receptions (received ++ transmitted) receiver sender descriptor) := by
  rw [packets_run, Receiver.offered_received, Intake.map_record_logs,
    Record.filter_offered_received]

/-- The base filed after one log and then the other consists of the first transmission of every
number since the receiver is known. -/
theorem Correlator.packets_logs_base (received transmitted : List Record)
    {receiver sender : String} (other : sender ≠ receiver) (descriptor : String) :
    (run (Intake.logs received transmitted)).packets .base receiver sender descriptor =
      Record.firsts (Record.transmissions
        (transmitted.drop (Record.entrance received transmitted receiver)) sender descriptor) := by
  rw [packets_run, Receiver.offered_base, Record.filter_offered_base _ other]

theorem Receiver.repeats_logs_received (received transmitted : List Record)
    (receiver sender descriptor : String) :
    repeats receiver .received sender descriptor (Intake.logs received transmitted) =
      Record.repeats
        (Record.receptions (received ++ transmitted) receiver sender descriptor) := by
  rw [repeats, offered_received, Intake.map_record_logs, Record.filter_offered_received]

theorem Receiver.repeats_logs_base (received transmitted : List Record)
    (receiver sender descriptor : String) :
    repeats receiver .base sender descriptor (Intake.logs received transmitted) =
      if sender = receiver then 0
      else Record.repeats (Record.transmissions
        (transmitted.drop (Record.entrance received transmitted receiver)) sender descriptor) := by
  by_cases same : sender = receiver
  · rw [if_pos same, same, repeats, offered_base_self]
    rfl
  · rw [if_neg same, repeats, offered_base, Record.filter_offered_base _ same]

/-- What a correlator holds after it took in a receive log and then a transmit log. Its nodes are
those that a record names as receiver. Received are the receptions of either log, and the base of a
link consists of the sender's transmissions since the receiver is known; of both the first record of
every number is kept, in the order of the logs. No node has a link to itself. The duplicates are the
records that were not kept. -/
theorem Correlator.run_logs (received transmitted : List Record) :
    let c := run (Intake.logs received transmitted)
    let records := received ++ transmitted
    let base (receiver sender descriptor : String) := Record.transmissions
      (transmitted.drop (Record.entrance received transmitted receiver)) sender descriptor
    (c.nodes.values.map (·.address) = c.nodes.keys ∧
      ∀ address, address ∈ c.nodes.keys ↔ ∃ r ∈ records, r.rxLinkAddr = address) ∧
    (∀ receiver sender descriptor, c.packets .received receiver sender descriptor =
      Record.firsts (Record.receptions records receiver sender descriptor)) ∧
    (∀ receiver sender descriptor, sender ≠ receiver →
      c.packets .base receiver sender descriptor =
        Record.firsts (base receiver sender descriptor)) ∧
    (∀ address, (c.nodeAt address).links.get? address = none) ∧
    c.duplicates = ∑ receiver ∈ (records.map (·.rxLinkAddr)).toFinset,
      ∑ sender ∈ (records.map (·.txLinkAddr)).toFinset,
        ∑ descriptor ∈ (records.map (·.descriptor)).toFinset,
          (Record.repeats (Record.receptions records receiver sender descriptor) +
            if sender = receiver then 0 else Record.repeats (base receiver sender descriptor)) := by
  intro c records base
  have formed : c.WellFormed := .run _
  refine ⟨⟨?_, ?_⟩, packets_logs_received received transmitted, ?_, ?_, ?_⟩
  · rw [values_eq_map_keys, List.map_map]
    exact List.map_id'' (fun address => (formed.nodeAt address).1) _
  · intro address
    have logged : (Intake.logs received transmitted).map (·.record) = records :=
      Intake.map_record_logs received transmitted
    rw [mem_keys_run, ← logged]
    simp
  · intro receiver sender descriptor other
    exact packets_logs_base received transmitted other descriptor
  · intro address
    cases found : (c.nodeAt address).links.get? address with
    | none => rfl
    | some l =>
      obtain ⟨keyed, node⟩ := formed.nodeAt address
      have linked := Directory.mem_keys_iff.2 ⟨l, found⟩
      exact absurd (keyed.symm ▸ linked) node.noSelf
  · have covered : ∀ i ∈ Intake.logs received transmitted,
        i.record.rxLinkAddr ∈ (records.map (·.rxLinkAddr)).toFinset ∧
        i.record.txLinkAddr ∈ (records.map (·.txLinkAddr)).toFinset ∧
        i.record.descriptor ∈ (records.map (·.descriptor)).toFinset := by
      intro i member
      have logged : i.record ∈ (Intake.logs received transmitted).map (·.record) :=
        List.mem_map_of_mem member
      rw [Intake.map_record_logs] at logged
      simp only [List.mem_toFinset]
      exact ⟨List.mem_map_of_mem logged, List.mem_map_of_mem logged, List.mem_map_of_mem logged⟩
    rw [duplicates_run covered]
    simp only [Receiver.repeatsOver, Receiver.repeats_logs_received, Receiver.repeats_logs_base]
    rfl

end RangeTest
