import RangeTest.Proofs.Summary.Listing

namespace RangeTest

theorem Link.mem_unmatchedDescriptors_iff {l : Link} {descriptor : String} :
    descriptor ∈ l.unmatchedDescriptors ↔
      descriptor ∈ l.received.descriptors ∧ descriptor ∉ l.base.descriptors := by
  rw [unmatchedDescriptors, List.mem_filter, ← Ledger.bucket?_isSome_iff (l := l.base)]
  simp

/-- What was received over the links without ever being logged as transmitted. -/
def Correlator.unmatched (c : Correlator) : List (String × String × String) :=
  c.links.flatMap fun link =>
    link.2.2.unmatchedDescriptors.map fun descriptor => (link.1, link.2.1, descriptor)

theorem Correlator.WellFormed.unmatched_nodup {c : Correlator} (formed : c.WellFormed) :
    c.unmatched.Nodup := by
  refine formed.triples_nodup (·.unmatchedDescriptors) ?_
  rintro ⟨receiver, sender, l⟩ listed
  obtain ⟨_, rfl⟩ := formed.mem_links_iff.1 listed
  have received := (formed.nodeAt receiver).2.ledgers_link sender .received
  exact received.distinct.filter _

theorem Correlator.WellFormed.mem_unmatched_iff {c : Correlator} (formed : c.WellFormed)
    {receiver sender descriptor : String} : (receiver, sender, descriptor) ∈ c.unmatched ↔
      descriptor ∈ ((c.nodeAt receiver).link sender).unmatchedDescriptors := by
  constructor
  · intro member
    obtain ⟨⟨_, _, l⟩, listed, made⟩ := List.mem_flatMap.1 member
    obtain ⟨_, unmatched, same⟩ := List.mem_map.1 made
    cases same
    obtain ⟨_, rfl⟩ := formed.mem_links_iff.1 listed
    exact unmatched
  · intro unmatched
    have received := (formed.nodeAt receiver).2.ledgers_link sender .received
    have arrived := received.mem_descriptors_iff.1 (Link.mem_unmatchedDescriptors_iff.1 unmatched).1
    have linked := Receiver.mem_keys_of_packet .received arrived
    exact List.mem_flatMap.2 ⟨_, formed.mem_links_iff.2 ⟨linked, rfl⟩,
      List.mem_map.2 ⟨descriptor, unmatched, rfl⟩⟩

/-- The notice about a descriptor that was received and never logged as transmitted. -/
def Notice.unmatched (subject : String × String × String) : Notice :=
  .neverTransmitted subject.1 subject.2.1 subject.2.2

theorem Notice.unmatched_injective : Function.Injective unmatched := by
  intro subject other same
  injection same with receiver sender descriptor
  exact Prod.ext receiver (Prod.ext sender descriptor)

theorem Link.unmatched_not_mem_statisticNotices (receiver sender : String) (l : Link)
    (descriptor : String) (subject : String × String × String) :
    Notice.unmatched subject ∉ l.statisticNotices receiver sender descriptor := by
  intro member
  rw [statisticNotices] at member
  rcases List.mem_append.1 member with average | loss
  · split at average
    · cases List.mem_singleton.1 average
    · exact List.not_mem_nil average
  · split at loss
    · cases List.mem_singleton.1 loss
    · exact List.not_mem_nil loss

/-- An operator is told of everything unmatched and of nothing else that it is. -/
theorem Correlator.count_unmatched (c : Correlator) (subject : String × String × String) :
    c.notices.count (.unmatched subject) = c.unmatched.count subject := by
  rw [notices, unmatched, List.count_flatMap, List.count_flatMap]
  refine congrArg List.sum (List.map_congr_left fun link _ => ?_)
  obtain ⟨receiver, sender, l⟩ := link
  have other : Notice.unmatched subject ∉
      l.base.descriptors.flatMap (l.statisticNotices receiver sender) := by
    intro member
    obtain ⟨descriptor, _, told⟩ := List.mem_flatMap.1 member
    exact l.unmatched_not_mem_statisticNotices receiver sender descriptor subject told
  have warnings : l.unmatchedDescriptors.map (Notice.neverTransmitted receiver sender) =
      (l.unmatchedDescriptors.map fun descriptor => (receiver, sender, descriptor)).map
        Notice.unmatched := by
    rw [List.map_map]
    rfl
  simp only [Function.comp_apply, Link.notices]
  rw [List.count_append, List.count_eq_zero.2 other, warnings,
    List.count_map_of_injective _ _ Notice.unmatched_injective, Nat.add_zero]

/-- Of a descriptor that is unmatched over a link an operator is told once, and of others never. -/
theorem Correlator.WellFormed.count_neverTransmitted {c : Correlator} (formed : c.WellFormed)
    (receiver sender descriptor : String) :
    c.notices.count (.neverTransmitted receiver sender descriptor) =
      if descriptor ∈ ((c.nodeAt receiver).link sender).unmatchedDescriptors then 1 else 0 := by
  have counted : c.notices.count (.neverTransmitted receiver sender descriptor) = _ :=
    c.count_unmatched (receiver, sender, descriptor)
  rw [counted]
  split
  · rename_i unmatched
    exact List.count_eq_one_of_mem formed.unmatched_nodup (formed.mem_unmatched_iff.2 unmatched)
  · rename_i matched
    exact List.count_eq_zero.2 (mt formed.mem_unmatched_iff.1 matched)

end RangeTest
