import RangeTest.LinkSummary
import RangeTest.Proofs.Correlator.WellFormed
import RangeTest.Proofs.Loss.Span

namespace RangeTest

/-- The packets sent of which nothing arrived. -/
def Record.lost (sent arrived : List Record) : List Record :=
  sent.filter (·.packetNr ∉ arrived.map (·.packetNr))

theorem Record.lost_sublist (sent arrived : List Record) : (lost sent arrived).Sublist sent :=
  List.filter_sublist

/-- The set of numbers that a bucket keeps is as good as its packets. -/
theorem Bucket.Sound.countP_eq_length_lost {kind : Record → Prop} {b : Bucket}
    (sound : b.Sound kind) (sent : List Record) :
    (sent.countP fun r => !b.numbers.contains r.packetNr) =
      (Record.lost sent b.packets).length := by
  rw [List.countP_eq_length_filter, Record.lost]
  congr 1
  refine List.filter_congr fun r _ => ?_
  have same : r.packetNr ∈ b.numbers ↔ r.packetNr ∈ b.packets.map (·.packetNr) := by
    rw [sound.indexed, List.mem_map]
  simp only [List.contains_eq_mem, same, decide_not]

theorem Ledger.WellFormed.bucket?_eq_none_iff {kind : Record → Prop} {l : Ledger}
    (formed : l.WellFormed kind) (descriptor : String) :
    l.bucket? descriptor = none ↔ l.packets descriptor = [] := by
  cases found : l.bucket? descriptor with
  | none => simp [packets, bucket, found, Bucket.empty]
  | some b =>
    have nonempty := (formed.buckets _ (mem_of_bucket? found)).1
    simpa [packets, bucket, found] using nonempty

theorem Ledger.bucket?_isSome_iff {l : Ledger} {descriptor : String} :
    (l.bucket? descriptor).isSome ↔ descriptor ∈ l.descriptors := by
  simp [bucket?, descriptors, List.find?_isSome]

/-- The packets asked for make a sample if there are as many of them. -/
theorem Ledger.sample_eq {l : Ledger} {descriptor : String} {amount : Nat} (positive : 0 < amount)
    (enough : amount ≤ l.count descriptor) (absent : LinkError) :
    l.sample descriptor amount absent = .ok ((l.packets descriptor).take amount) := by
  cases found : l.bucket? descriptor with
  | none =>
    have nothing : l.count descriptor = 0 := by simp [count, packets, bucket, found, Bucket.empty]
    omega
  | some b =>
    have held : l.packets descriptor = b.packets := by simp [packets, bucket, found]
    rw [count, held] at enough
    rw [sample, found, held]
    simp only [if_neg (Nat.ne_of_gt positive), if_neg (Nat.not_lt.2 enough)]

/-- All packets of a descriptor that is there make a sample. -/
theorem Ledger.WellFormed.sample_count {kind : Record → Prop} {l : Ledger}
    (formed : l.WellFormed kind) {descriptor : String} (listed : descriptor ∈ l.descriptors)
    (absent : LinkError) :
    l.sample descriptor (l.count descriptor) absent = .ok (l.packets descriptor) ∧
      l.packets descriptor ≠ [] := by
  have nonempty : l.packets descriptor ≠ [] := by
    rw [← bucket?_isSome_iff] at listed
    exact mt (formed.bucket?_eq_none_iff descriptor).2 (Option.isSome_iff_ne_none.1 listed)
  have sampled := sample_eq (List.length_pos_of_ne_nil nonempty) le_rfl absent
  rw [List.take_length] at sampled
  exact ⟨sampled, nonempty⟩

/-- The difference of two packet numbers fits into a signed word, whichever is the greater one. -/
theorem Loss.toInt_difference (first last : UInt32) :
    (Int64.ofNat last.toNat - .ofNat first.toNat).toInt = last.toNat - first.toNat := by
  have firstFits := first.toNat_lt
  have lastFits := last.toNat_lt
  rw [Int64.toInt_sub, Int64.toInt_ofNat_of_lt (by omega), Int64.toInt_ofNat_of_lt (by omega),
    Int.bmod_eq_of_le (by omega) (by omega)]

/-- Nothing wraps around, so that the span in signed words is that of the packet numbers. -/
theorem Loss.toInt_span (first last : UInt32) :
    (span first last).toInt = last.toNat - first.toNat + 1 := by
  have firstFits := first.toNat_lt
  have lastFits := last.toNat_lt
  rw [span, Int64.toInt_add, toInt_difference, Int64.toInt_one,
    Int.bmod_eq_of_le (by omega) (by omega)]

theorem Loss.span_le_zero_iff {first last : UInt32} : span first last ≤ 0 ↔ last < first := by
  rw [Int64.le_iff_toInt_le, toInt_span, Int64.toInt_zero, UInt32.lt_iff_toNat_lt]
  omega

/-- The loss in terms of packet numbers as they are counted. -/
theorem Loss.measure_eq {descriptor : String} {sent : List Record} {arrived : Bucket}
    {first last : Record} (head : sent.head? = some first) (tail : sent.getLast? = some last) :
    measure descriptor sent arrived =
      if last.packetNr < first.packetNr then
        .error (.degenerateSequence descriptor first.packetNr last.packetNr)
      else .ok (.counted (sent.countP fun r => !arrived.numbers.contains r.packetNr)
        (Record.span first last)) := by
  rw [measure, head, tail]
  dsimp only
  by_cases disordered : last.packetNr < first.packetNr
  · rw [if_pos disordered, if_pos (span_le_zero_iff.2 disordered)]
  · have total : (span first.packetNr last.packetNr).toNatClampNeg = Record.span first last := by
      rw [Int64.toNatClampNeg, toInt_span, Record.span]
      rw [UInt32.lt_iff_toNat_lt] at disordered
      omega
    rw [if_neg disordered, if_neg (mt span_le_zero_iff.1 disordered), total]

/-- The loss among the first packets sent with a descriptor. Nothing to divide is there if nothing
arrived, and otherwise the loss is measured against the span from the first packet sent to the last
one, which has to be in order. -/
theorem Link.loss_eq {kind : Record → Prop} {l : Link} (arrivals : l.received.WellFormed kind)
    {descriptor : String} {amount : Nat} (positive : 0 < amount)
    (enough : amount ≤ l.base.count descriptor) :
    let sent := (l.base.packets descriptor).take amount
    ∃ first last, sent.head? = some first ∧ sent.getLast? = some last ∧
      l.loss descriptor amount =
        if l.received.packets descriptor = [] then .ok .whole
        else if last.packetNr < first.packetNr then
          .error (.degenerateSequence descriptor first.packetNr last.packetNr)
        else .ok (.counted (Record.lost sent (l.received.packets descriptor)).length
          (Record.span first last)) := by
  intro sent
  have nonempty : sent ≠ [] := by
    refine List.ne_nil_of_length_pos ?_
    rw [List.length_take]
    exact Nat.lt_min.2 ⟨positive, Nat.lt_of_lt_of_le positive enough⟩
  obtain ⟨first, head⟩ := Option.isSome_iff_exists.1 (List.isSome_head?.2 nonempty)
  obtain ⟨last, tail⟩ := Option.isSome_iff_exists.1 (List.getLast?_isSome.2 nonempty)
  refine ⟨first, last, head, tail, ?_⟩
  have emptiness := arrivals.bucket?_eq_none_iff descriptor
  rw [loss, Ledger.sample_eq positive enough]
  cases found : l.received.bucket? descriptor with
  | none =>
    rw [if_pos (emptiness.1 found)]
    rfl
  | some arrived =>
    have received := mt emptiness.2 (by simp [found])
    have held : l.received.packets descriptor = arrived.packets := by
      simp [Ledger.packets, Ledger.bucket, found]
    have sound := (arrivals.buckets _ (Ledger.mem_of_bucket? found)).2
    rw [if_neg received, held, ← sound.countP_eq_length_lost]
    exact Loss.measure_eq head tail

/-- The loss among all packets sent with a descriptor. -/
theorem Link.lossAll_eq {receiver sender : String} {l : Link}
    (formed : l.WellFormed receiver sender) {descriptor : String}
    (listed : descriptor ∈ l.base.descriptors) :
    ∃ first last, (l.base.packets descriptor).head? = some first ∧
      (l.base.packets descriptor).getLast? = some last ∧
      l.lossAll descriptor =
        if l.received.packets descriptor = [] then .ok .whole
        else if last.packetNr < first.packetNr then
          .error (.degenerateSequence descriptor first.packetNr last.packetNr)
        else .ok (.counted
          (Record.lost (l.base.packets descriptor) (l.received.packets descriptor)).length
          (Record.span first last)) := by
  have base : l.base.WellFormed (Side.base.Admits receiver sender) := formed.ledgers .base
  obtain ⟨_, nonempty⟩ := base.sample_count listed (.noTransmitted descriptor)
  have measured := loss_eq (formed.ledgers .received) (List.length_pos_of_ne_nil nonempty) le_rfl
  rwa [List.take_length] at measured

/-- Every summary is that of a descriptor which was transmitted over a link. -/
theorem Correlator.mem_summaries {c : Correlator} (formed : c.WellFormed) {s : LinkSummary}
    (listed : s ∈ c.summaries) :
    s = .ofLink s.receiver s.sender ((c.nodeAt s.receiver).link s.sender) s.descriptor ∧
      s.descriptor ∈ ((c.nodeAt s.receiver).link s.sender).base.descriptors ∧
      ((c.nodeAt s.receiver).link s.sender).WellFormed s.receiver s.sender := by
  obtain ⟨⟨receiver, sender, l⟩, atLink, made⟩ := List.mem_flatMap.1 listed
  obtain ⟨descriptor, transmitted, rfl⟩ := List.mem_map.1 made
  obtain ⟨node, atNode, inNode⟩ := List.mem_flatMap.1 atLink
  obtain ⟨entry, atEntry, same⟩ := List.mem_map.1 inNode
  cases same
  obtain ⟨stored, inNodes, rfl⟩ := List.mem_map.1 atNode
  have known : c.nodeAt stored.2.address = stored.2 :=
    nodeAt_of_mem (formed.keyed stored inNodes ▸ inNodes)
  have linked : (c.nodeAt stored.2.address).link entry.1 = entry.2 := by
    simp [known, Receiver.link, Directory.get?_eq_some_iff.2 atEntry]
  simp only [LinkSummary.ofLink, linked, true_and]
  exact ⟨transmitted, (formed.nodes stored inNodes).links entry atEntry⟩

end RangeTest
