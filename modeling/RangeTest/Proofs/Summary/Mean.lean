import RangeTest.Proofs.Summary.Listing

namespace RangeTest

/-- The mean of some values, which are summed up in their order. -/
def Quantity.mean? (values : List Int) : Option Float :=
  if values = [] then none
  else some (values.foldl (fun sum value => sum + Float.ofInt value) 0 / Float.ofNat values.length)

@[simp] theorem Quantity.isSome_mean? (values : List Int) :
    (mean? values).isSome = !values.isEmpty := by
  cases values <;> rfl

/-- The average over all packets received is their mean, and fails only for want of packets. -/
theorem Ledger.WellFormed.averageAll_eq {kind : Record → Prop} {l : Link}
    (formed : l.received.WellFormed kind) (descriptor : String) (quantity : Quantity) :
    l.averageAll descriptor quantity =
      match Quantity.mean? ((l.received.packets descriptor).map (·.quantity quantity)) with
      | some mean => .ok mean
      | none => .error (.noReceived descriptor) := by
  rw [Link.averageAll, Link.average, Quantity.mean?]
  by_cases arrived : l.received.packets descriptor = []
  · have absent := (formed.bucket?_eq_none_iff descriptor).2 arrived
    rw [arrived, sample, absent]
    rfl
  · obtain ⟨sampled, _⟩ := formed.sample_count (formed.mem_descriptors_iff.2 arrived)
      (.noReceived descriptor)
    have values : ¬ (l.received.packets descriptor).map (·.quantity quantity) = [] := by
      rwa [List.map_eq_nil_iff]
    rw [sampled, if_neg values, List.foldl_map, List.length_map]
    rfl

theorem Ledger.WellFormed.averageRssi_eq {kind : Record → Prop} {l : Link}
    (formed : l.received.WellFormed kind) (descriptor : String) :
    (l.averageRssi? descriptor).bind Except.toOption =
      Quantity.mean? ((l.received.packets descriptor).map (·.quantity .rssi)) := by
  rw [Link.averageRssi?, formed.averageAll_eq, count]
  by_cases arrived : l.received.packets descriptor = []
  · rw [arrived]
    rfl
  · rw [if_pos (List.length_pos_iff.2 arrived)]
    cases Quantity.mean? _ <;> rfl

/-- The mean that a summary states is that of all packets filed as received. -/
theorem Correlator.WellFormed.averageRssi_of_mem {c : Correlator} (formed : c.WellFormed)
    {s : LinkSummary} (listed : s ∈ c.summaries) :
    s.averageRssi = Quantity.mean?
      ((c.packets .received s.receiver s.sender s.descriptor).map (·.quantity .rssi)) := by
  obtain ⟨summary, _, link⟩ := mem_summaries formed listed
  rw [summary]
  exact (link.ledgers .received).averageRssi_eq s.descriptor

end RangeTest
