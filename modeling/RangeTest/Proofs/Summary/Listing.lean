import RangeTest.Proofs.Loss.Measure

namespace RangeTest

theorem Ledger.WellFormed.mem_descriptors_iff {kind : Record → Prop} {l : Ledger}
    (formed : l.WellFormed kind) {descriptor : String} :
    descriptor ∈ l.descriptors ↔ l.packets descriptor ≠ [] := by
  have emptiness := formed.bucket?_eq_none_iff descriptor
  rw [← bucket?_isSome_iff, Option.isSome_iff_ne_none, ne_eq, emptiness]

theorem Receiver.entries_eq_map_keys (n : Receiver) :
    n.links.entries = n.links.keys.map fun sender => (sender, n.link sender) := by
  have linked (entry : String × Link) (member : entry ∈ n.links.entries) :
      (entry.1, n.link entry.1) = entry := by
    rw [link, Directory.get?_eq_some_iff.2 member]
    rfl
  rw [Directory.keys, List.map_map]
  exact ((List.map_congr_left linked).trans (List.map_id _)).symm

theorem Receiver.link_of_not_mem {n : Receiver} {sender : String}
    (unlinked : sender ∉ n.links.keys) : n.link sender = .empty := by
  cases found : n.links.get? sender with
  | none => rw [link, found, Option.getD_none]
  | some l => exact absurd (Directory.mem_keys_iff.2 ⟨l, found⟩) unlinked

theorem Receiver.mem_keys_of_packet {n : Receiver} {sender descriptor : String} (side : Side)
    (held : ((n.link sender).ledger side).packets descriptor ≠ []) : sender ∈ n.links.keys := by
  by_contra unlinked
  rw [link_of_not_mem unlinked, Link.ledger_empty] at held
  exact held rfl

/-- A well-formed node has links to those senders of which it holds packets on either side. -/
theorem Receiver.WellFormed.mem_links_keys_iff {n : Receiver} (formed : n.WellFormed)
    {sender : String} : sender ∈ n.links.keys ↔
      ∃ side descriptor, ((n.link sender).ledger side).packets descriptor ≠ [] := by
  constructor
  · intro linked
    obtain ⟨l, found⟩ := Directory.mem_keys_iff.1 linked
    have known := formed.links _ (Directory.get?_eq_some_iff.1 found)
    obtain ⟨side, descriptor, packet, held⟩ := known.nonempty
    rw [link, found]
    exact ⟨side, descriptor, List.ne_nil_of_mem held⟩
  · rintro ⟨side, descriptor, held⟩
    exact mem_keys_of_packet side held

theorem Correlator.WellFormed.link {c : Correlator} (formed : c.WellFormed)
    {receiver sender : String} (linked : sender ∈ (c.nodeAt receiver).links.keys) :
    ((c.nodeAt receiver).link sender).WellFormed receiver sender := by
  obtain ⟨keyed, node⟩ := formed.nodeAt receiver
  obtain ⟨l, found⟩ := Directory.mem_keys_iff.1 linked
  have known := node.links _ (Directory.get?_eq_some_iff.1 found)
  rw [keyed] at known
  rwa [Receiver.link, found]

/-- The links in their order, by the addresses at which they are found. -/
theorem Correlator.WellFormed.links_eq {c : Correlator} (formed : c.WellFormed) :
    c.links = c.nodes.keys.flatMap fun receiver =>
      (c.nodeAt receiver).links.keys.map fun sender =>
        (receiver, sender, (c.nodeAt receiver).link sender) := by
  rw [links, values_eq_map_keys, List.flatMap_map]
  refine List.flatMap_congr fun receiver _ => ?_
  rw [Receiver.entries_eq_map_keys, List.map_map, (formed.nodeAt receiver).1]
  rfl

theorem Correlator.WellFormed.mem_links_iff {c : Correlator} (formed : c.WellFormed)
    {receiver sender : String} {l : Link} : (receiver, sender, l) ∈ c.links ↔
      sender ∈ (c.nodeAt receiver).links.keys ∧ l = (c.nodeAt receiver).link sender := by
  rw [formed.links_eq]
  simp only [List.mem_flatMap, List.mem_map, Prod.mk.injEq]
  constructor
  · rintro ⟨_, _, _, linked, rfl, rfl, rfl⟩
    exact ⟨linked, rfl⟩
  · rintro ⟨linked, rfl⟩
    have known : receiver ∈ c.nodes.keys := by
      by_contra unknown
      rw [nodeAt_of_not_mem unknown] at linked
      exact List.not_mem_nil linked
    exact ⟨receiver, known, sender, linked, rfl, rfl, rfl⟩

/-- No two links have the same ends. -/
theorem Correlator.WellFormed.links_distinct {c : Correlator} (formed : c.WellFormed) :
    (c.links.map fun link => (link.1, link.2.1)).Nodup := by
  rw [formed.links_eq, List.map_flatMap, List.nodup_flatMap]
  constructor
  · intro receiver _
    rw [List.map_map]
    exact (Directory.keys_nodup _).map fun _ _ same => (Prod.mk.inj same).2
  · refine (Directory.keys_nodup c.nodes).imp fun other => ?_
    refine List.disjoint_left.2 fun ends here there => ?_
    simp only [List.map_map, List.mem_map, Function.comp_apply] at here there
    obtain ⟨_, _, rfl⟩ := here
    obtain ⟨_, _, same⟩ := there
    exact other (Prod.mk.inj same).1.symm

/-- What a summary is about. -/
def LinkSummary.subject (s : LinkSummary) : String × String × String :=
  (s.receiver, s.sender, s.descriptor)

theorem Correlator.WellFormed.counts_of_mem {c : Correlator} (formed : c.WellFormed)
    {s : LinkSummary} (listed : s ∈ c.summaries) :
    s.transmitted = (c.packets .base s.receiver s.sender s.descriptor).length ∧
      s.received = (c.packets .received s.receiver s.sender s.descriptor).length := by
  obtain ⟨summary, _, _⟩ := mem_summaries formed listed
  exact ⟨congrArg LinkSummary.transmitted summary, congrArg LinkSummary.received summary⟩

/-- No summary is about a node as the receiver of its own packets. -/
theorem Correlator.WellFormed.sender_ne_receiver {c : Correlator} (formed : c.WellFormed)
    {s : LinkSummary} (listed : s ∈ c.summaries) : s.sender ≠ s.receiver := by
  obtain ⟨_, transmitted, link⟩ := mem_summaries formed listed
  obtain ⟨keyed, node⟩ := formed.nodeAt s.receiver
  have linked := Receiver.mem_keys_of_packet .base
    ((link.ledgers .base).mem_descriptors_iff.1 transmitted)
  have unlinked := node.noSelf
  rw [keyed] at unlinked
  exact fun same => unlinked (same ▸ linked)

theorem Correlator.WellFormed.ofLink_mem_summaries {c : Correlator} (formed : c.WellFormed)
    {receiver sender descriptor : String}
    (transmitted : descriptor ∈ ((c.nodeAt receiver).link sender).base.descriptors) :
    LinkSummary.ofLink receiver sender ((c.nodeAt receiver).link sender) descriptor ∈
      c.summaries := by
  have base := (formed.nodeAt receiver).2.ledgers_link sender .base
  have linked := Receiver.mem_keys_of_packet .base
    (base.mem_descriptors_iff.1 transmitted)
  exact List.mem_flatMap.2 ⟨_, formed.mem_links_iff.2 ⟨linked, rfl⟩,
    List.mem_map.2 ⟨descriptor, transmitted, rfl⟩⟩

/-- No two descriptors of links are listed for the same ends, whichever descriptors of a link are
listed. -/
theorem Correlator.WellFormed.triples_nodup {c : Correlator} (formed : c.WellFormed)
    (descriptors : Link → List String)
    (distinct : ∀ link ∈ c.links, (descriptors link.2.2).Nodup) :
    (c.links.flatMap fun link =>
      (descriptors link.2.2).map fun descriptor => (link.1, link.2.1, descriptor)).Nodup := by
  rw [List.nodup_flatMap]
  constructor
  · intro link listed
    exact (distinct link listed).map fun _ _ same => (Prod.mk.inj (Prod.mk.inj same).2).2
  · refine (List.pairwise_map.1 formed.links_distinct).imp fun other => ?_
    refine List.disjoint_left.2 fun subject here there => ?_
    obtain ⟨_, _, rfl⟩ := List.mem_map.1 here
    obtain ⟨_, _, same⟩ := List.mem_map.1 there
    simp only [Prod.mk.injEq] at same
    exact other (Prod.ext same.1.symm same.2.1.symm)

/-- No two summaries are about the same. -/
theorem Correlator.WellFormed.subjects_nodup {c : Correlator} (formed : c.WellFormed) :
    (c.summaries.map LinkSummary.subject).Nodup := by
  have distinct : ∀ link ∈ c.links, link.2.2.base.descriptors.Nodup := by
    rintro ⟨receiver, sender, l⟩ listed
    obtain ⟨_, rfl⟩ := formed.mem_links_iff.1 listed
    exact ((formed.nodeAt receiver).2.ledgers_link sender .base).distinct
  have triples := formed.triples_nodup (·.base.descriptors) distinct
  simp only [summaries, List.map_flatMap, List.map_map]
  exact triples

end RangeTest
