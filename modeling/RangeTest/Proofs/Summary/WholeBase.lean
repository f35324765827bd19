import RangeTest.Proofs.Correlator.Refinement
import RangeTest.Proofs.Ledger.Numbers
import RangeTest.Proofs.Loss.Proportion
import RangeTest.Proofs.Summary.Listing

namespace RangeTest

theorem Record.transmissions_append (before after : List Record) (sender descriptor : String) :
    transmissions (before ++ after) sender descriptor =
      transmissions before sender descriptor ++ transmissions after sender descriptor :=
  List.filter_append ..

/-- What a summary calls transmitted are the packet numbers that the sender used since the receiver
is known. -/
theorem Correlator.transmitted_eq_card {received transmitted : List Record} {s : LinkSummary}
    (listed : s ∈ (run (Intake.logs received transmitted)).summaries) :
    s.transmitted = (Record.numbers (Record.transmissions
      (transmitted.drop (Record.entrance received transmitted s.receiver))
        s.sender s.descriptor)).card := by
  have formed := WellFormed.run (Intake.logs received transmitted)
  rw [(formed.counts_of_mem listed).1,
    packets_logs_base received transmitted (formed.sender_ne_receiver listed),
    Record.length_firsts]

/-- Against which base a receiver is measured, wherever in the logs it appears. The packets that a
summary calls transmitted are those of the sender from the place on at which the receiver is known,
which is the beginning of the transmit log for every receiver that the receive log names, and else
the first record of the transmit log that names it. Each number counts once. These are never more
than the numbers of the whole base, and they are as many if and only if every number that was used
before that place is used again later. -/
theorem Correlator.transmitted_since_known {received transmitted : List Record} {s : LinkSummary}
    (listed : s ∈ (run (Intake.logs received transmitted)).summaries) :
    let place := Record.entrance received transmitted s.receiver
    let sent (records : List Record) :=
      Record.numbers (Record.transmissions records s.sender s.descriptor)
    s.transmitted = (sent (transmitted.drop place)).card ∧
      s.transmitted ≤ (sent transmitted).card ∧
      (s.transmitted = (sent transmitted).card ↔
        sent (transmitted.take place) ⊆ sent (transmitted.drop place)) ∧
      (s.receiver ∈ received.map (·.rxLinkAddr) → s.transmitted = (sent transmitted).card) := by
  intro place sent
  have counted : s.transmitted = (sent (transmitted.drop place)).card :=
    transmitted_eq_card listed
  have parts : sent transmitted = sent (transmitted.take place) ∪ sent (transmitted.drop place) := by
    rw [← Record.numbers_append, ← Record.transmissions_append, List.take_append_drop]
  have part : sent (transmitted.drop place) ⊆ sent transmitted :=
    parts ▸ Finset.subset_union_right
  refine ⟨counted, counted ▸ Finset.card_le_card part, ?_, ?_⟩
  · rw [counted]
    constructor
    · intro same
      have whole := Finset.eq_of_subset_of_card_le part same.ge
      rw [whole, parts]
      exact Finset.subset_union_left
    · intro again
      rw [parts, Finset.union_eq_right.2 again]
  · intro named
    have beginning : place = 0 := if_pos named
    rw [counted, beginning, List.drop_zero]

/-- A node that the receive log names is measured against all packets, even if it also stands in the
transmit log after some of them. -/
theorem Correlator.transmitted_since_known_beginning :
    ∃ s ∈ (run (Intake.logs [.sample 1 "A"]
        [.sample 1 "B", .sample 2 "B", .sample 2 "A", .sample 3 "B"])).summaries,
      s.receiver = "A" ∧ s.received = 2 ∧ s.transmitted = 3 := by
  have counts : ((run (Intake.logs [.sample 1 "A"]
      [.sample 1 "B", .sample 2 "B", .sample 2 "A", .sample 3 "B"])).summaries.map fun s =>
        (s.receiver, s.sender, s.descriptor, s.received)) = [("A", "B", "GFSK", 2)] := by
    decide +kernel
  obtain ⟨s, listed, fields⟩ := List.mem_map.1 (counts ▸ List.mem_singleton_self _)
  simp only [Prod.mk.injEq] at fields
  obtain ⟨receiver, sender, descriptor, arrived⟩ := fields
  have whole := (transmitted_since_known listed).2.2.2 (by simp [receiver, Record.sample])
  refine ⟨s, listed, receiver, arrived, whole.trans ?_⟩
  rw [sender, descriptor]
  decide +kernel

/-- A receiver that becomes known in the midst of the transmit log is measured against a part of the
packets only: of two packets sent it got one, and one is called transmitted. -/
theorem Correlator.transmitted_part_of_base :
    ∃ s ∈ (run (Intake.logs [] [.sample 1 "B", .sample 1 "A", .sample 2 "B"])).summaries,
      s.receiver = "A" ∧ s.sender = "B" ∧ s.descriptor = "GFSK" ∧ 0 < s.received ∧
        s.transmitted = 1 ∧
        (Record.numbers (Record.transmissions
          [.sample 1 "B", .sample 1 "A", .sample 2 "B"] "B" "GFSK")).card = 2 := by
  have counts : ((run (Intake.logs [] [.sample 1 "B", .sample 1 "A", .sample 2 "B"])).summaries.map
      fun s => (s.receiver, s.sender, s.descriptor, s.received, s.transmitted)) =
        [("A", "B", "GFSK", 1, 1)] := by
    decide +kernel
  have base : (Record.numbers (Record.transmissions
      [.sample 1 "B", .sample 1 "A", .sample 2 "B"] "B" "GFSK")).card = 2 := by
    decide +kernel
  obtain ⟨s, listed, fields⟩ := List.mem_map.1 (counts ▸ List.mem_singleton_self _)
  simp only [Prod.mk.injEq] at fields
  obtain ⟨receiver, sender, descriptor, received, transmitted⟩ := fields
  exact ⟨s, listed, receiver, sender, descriptor, received ▸ Nat.one_pos, transmitted, base⟩

end RangeTest
