import RangeTest.Proofs.Summary.Permutation
import RangeTest.Proofs.Text.Order

namespace RangeTest

/-- In the course of a history the base of a link got a first packet with one descriptor when it had
none yet with another one. -/
def Correlator.StoredFirst (history : List Intake) (receiver sender first second : String) : Prop :=
  ∃ before, before <+: history ∧ (run before).packets .base receiver sender first ≠ [] ∧
    (run before).packets .base receiver sender second = []

theorem Correlator.StoredFirst.append {history : List Intake}
    {receiver sender first second : String}
    (stored : StoredFirst history receiver sender first second) (later : List Intake) :
    StoredFirst (history ++ later) receiver sender first second := by
  obtain ⟨before, early, present, absent⟩ := stored
  exact ⟨before, early.trans (List.prefix_append history later), present, absent⟩

/-- A record opens one descriptor of a ledger at most, and behind all others. -/
theorem Correlator.descriptors_take (history : List Intake) (i : Intake)
    (receiver sender : String) (side : Side) :
    let before := (((run history).nodeAt receiver).link sender).ledger side
    let after := ((((run history).take i).nodeAt receiver).link sender).ledger side
    after.descriptors = before.descriptors ∨
      i.record.descriptor ∉ before.descriptors ∧
        after.descriptors = before.descriptors ++ [i.record.descriptor] := by
  intro before after
  have changed : after = if receiver ∈ (run history).audience i ∧
      Receiver.side? receiver i.record = some side ∧ sender = i.record.txLinkAddr
      then (before.add i.record).2 else before := by
    simp only [after, before, nodeAt_take]
    by_cases sees : receiver ∈ (run history).audience i
    · rw [if_pos sees, Receiver.ledger_after, address_nodeAt_run]
      simp only [sees, true_and]
    · rw [if_neg sees, if_neg fun all => sees all.1]
  rw [changed]
  split
  · rw [Ledger.descriptors_add]
    split
    · exact Or.inl rfl
    · rename_i fresh
      exact Or.inr ⟨fresh, rfl⟩
  · exact Or.inl rfl

/-- The descriptors of a base are in the order in which it got their first packets. -/
theorem Correlator.descriptors_storedFirst (history : List Intake) (receiver sender : String) :
    (((run history).nodeAt receiver).link sender).base.descriptors.Pairwise
      (StoredFirst history receiver sender) := by
  induction history using List.reverseRecOn with
  | nil => exact .nil
  | append_singleton history i ih =>
    have held {descriptor : String} :
        descriptor ∈ (((run history).nodeAt receiver).link sender).base.descriptors ↔
          (run history).packets .base receiver sender descriptor ≠ [] :=
      (((WellFormed.run history).nodeAt receiver).2.ledgers_link sender .base).mem_descriptors_iff
    have old := ih.imp fun stored => stored.append [i]
    rw [run_concat]
    rcases descriptors_take history i receiver sender .base with same | ⟨fresh, grown⟩
    · exact same ▸ old
    · -- The new descriptor had no packet when all others had one.
      refine grown ▸ List.pairwise_append.2 ⟨old, List.pairwise_singleton _ _, ?_⟩
      intro first member second last
      rw [List.mem_singleton.1 last]
      exact ⟨history, List.prefix_append _ _, held.1 member, not_not.1 (mt held.2 fresh)⟩

/-- Of two summaries one is about the lesser link, in the byte order of the receivers and then of
the senders, or both are about one link whose base got the descriptor of the one first. -/
inductive LinkSummary.Precedes (history : List Intake) (s t : LinkSummary) : Prop
  | receiver : Text.encode s.receiver.toList < Text.encode t.receiver.toList → Precedes history s t
  | sender : s.receiver = t.receiver →
      Text.encode s.sender.toList < Text.encode t.sender.toList → Precedes history s t
  | descriptor : s.receiver = t.receiver → s.sender = t.sender →
      Correlator.StoredFirst history s.receiver s.sender s.descriptor t.descriptor →
      Precedes history s t

/-- Links are listed in the order of their receivers and then of their senders. -/
theorem Correlator.WellFormed.links_ordered {c : Correlator} (formed : c.WellFormed) :
    c.links.Pairwise fun link other =>
      link.1 < other.1 ∨ link.1 = other.1 ∧ link.2.1 < other.2.1 := by
  rw [formed.links_eq, List.pairwise_flatMap]
  constructor
  · intro receiver _
    refine List.pairwise_map.2 ((Directory.keys_ascending _).imp fun less => ?_)
    exact Or.inr ⟨rfl, less⟩
  · refine (Directory.keys_ascending c.nodes).imp fun less link inside other outside => ?_
    obtain ⟨_, _, rfl⟩ := List.mem_map.1 inside
    obtain ⟨_, _, rfl⟩ := List.mem_map.1 outside
    exact Or.inl less

theorem Correlator.summaries_ordered (history : List Intake) :
    (run history).summaries.Pairwise (LinkSummary.Precedes history) := by
  have formed := WellFormed.run history
  rw [summaries, List.pairwise_flatMap]
  constructor
  · rintro ⟨receiver, sender, l⟩ listed
    obtain ⟨_, rfl⟩ := formed.mem_links_iff.1 listed
    refine List.pairwise_map.2 ((descriptors_storedFirst history receiver sender).imp ?_)
    exact fun stored => .descriptor rfl rfl stored
  · refine formed.links_ordered.imp fun {link other} less s inside t outside => ?_
    obtain ⟨_, _, rfl⟩ := List.mem_map.1 inside
    obtain ⟨_, _, rfl⟩ := List.mem_map.1 outside
    rcases less with receivers | ⟨same, senders⟩
    · exact .receiver (Text.encode_toList_lt receivers)
    · exact .sender same (Text.encode_toList_lt senders)

/-- A summary is listed for every descriptor of a base that has a packet. -/
theorem Correlator.WellFormed.mem_subjects_iff {c : Correlator} (formed : c.WellFormed)
    (receiver sender descriptor : String) :
    (receiver, sender, descriptor) ∈ c.summaries.map LinkSummary.subject ↔
      c.packets .base receiver sender descriptor ≠ [] := by
  have base := (formed.nodeAt receiver).2.ledgers_link sender .base
  rw [packets, ← base.mem_descriptors_iff]
  constructor
  · intro member
    obtain ⟨s, listed, about⟩ := List.mem_map.1 member
    cases about
    exact (mem_summaries formed listed).2.1
  · intro transmitted
    exact List.mem_map.2 ⟨_, formed.ofLink_mem_summaries transmitted, rfl⟩

theorem Correlator.WellFormed.length_packets {c : Correlator} (formed : c.WellFormed) (side : Side)
    (receiver sender descriptor : String) :
    (c.packets side receiver sender descriptor).length =
      (Record.numbers (c.packets side receiver sender descriptor)).card := by
  have sound := ((formed.nodeAt receiver).2.ledgers_link sender side).bucket_sound descriptor
  exact (Record.card_numbers sound.distinct).symm

/-- Which summaries are listed, and in which order, whatever records were taken in. There is one for
each receiver, sender and descriptor with a packet in the base, and none for any other. They are in
the byte order of receivers and then of senders, and those of one link in the order in which its
base got the first packet with their descriptors. Receiver and sender differ, a packet at least was
transmitted, and the counts are those of the distinct packet numbers that are stored. -/
theorem Correlator.summaries_listing (history : List Intake) :
    let c := run history
    let numbers (side : Side) (s : LinkSummary) :=
      Record.numbers (c.packets side s.receiver s.sender s.descriptor)
    (∀ receiver sender descriptor,
      (c.summaries.map LinkSummary.subject).count (receiver, sender, descriptor) =
        if c.packets .base receiver sender descriptor = [] then 0 else 1) ∧
    c.summaries.Pairwise (LinkSummary.Precedes history) ∧
    ∀ s ∈ c.summaries, s.receiver ≠ s.sender ∧ 1 ≤ s.transmitted ∧
      s.transmitted = (numbers .base s).card ∧ s.received = (numbers .received s).card := by
  intro c numbers
  have formed : c.WellFormed := .run history
  refine ⟨?_, summaries_ordered history, ?_⟩
  · intro receiver sender descriptor
    have listed := formed.mem_subjects_iff receiver sender descriptor
    split
    · rename_i empty
      exact List.count_eq_zero.2 fun member => listed.1 member empty
    · rename_i held
      exact List.count_eq_one_of_mem formed.subjects_nodup (listed.2 held)
  · intro s listed
    obtain ⟨transmitted, received⟩ := formed.counts_of_mem listed
    have held : c.packets .base s.receiver s.sender s.descriptor ≠ [] :=
      (formed.mem_subjects_iff _ _ _).1 (List.mem_map_of_mem listed)
    refine ⟨(formed.sender_ne_receiver listed).symm, ?_, ?_, ?_⟩
    · rw [transmitted]
      exact List.length_pos_of_ne_nil held
    · rw [transmitted, formed.length_packets]
    · rw [received, formed.length_packets]

end RangeTest
