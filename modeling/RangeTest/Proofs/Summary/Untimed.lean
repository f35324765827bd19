import RangeTest.LinkSummary
import RangeTest.Proofs.Correlator.Untimed

namespace RangeTest

theorem Record.quantity_untimed (r : Record) (quantity : Quantity) :
    r.untimed.quantity quantity = r.quantity quantity := by
  cases quantity <;> rfl

section
variable (l : Ledger) (descriptor : String)

theorem Ledger.bucket?_untimed :
    l.untimed.bucket? descriptor = (l.bucket? descriptor).map .untimed := by
  rw [bucket?, untimed, List.find?_map, Option.map_map, bucket?, Option.map_map]
  rfl

theorem Ledger.packets_untimed :
    l.untimed.packets descriptor = (l.packets descriptor).map .untimed := by
  rw [packets, bucket, bucket?_untimed, packets, bucket]
  cases l.bucket? descriptor <;> rfl

theorem Ledger.count_untimed : l.untimed.count descriptor = l.count descriptor := by
  rw [count, packets_untimed, List.length_map, count]

theorem Ledger.descriptors_untimed : l.untimed.descriptors = l.descriptors := by
  rw [descriptors, untimed, List.map_map, descriptors]
  rfl

theorem Ledger.sample_untimed (amount : Nat) (absent : LinkError) :
    l.untimed.sample descriptor amount absent =
      (l.sample descriptor amount absent).map (·.map .untimed) := by
  rw [sample, bucket?_untimed, sample]
  cases l.bucket? descriptor with
  | none => rfl
  | some bucket =>
    simp only [Option.map_some, Bucket.untimed, List.length_map]
    split_ifs
    · rfl
    · rfl
    · exact congrArg Except.ok List.map_take.symm

end

theorem Loss.measure_untimed (descriptor : String) (sent : List Record) (arrived : Bucket) :
    measure descriptor (sent.map .untimed) arrived.untimed =
      measure descriptor sent arrived := by
  rw [measure, List.head?_map, List.getLast?_map, measure, List.countP_map]
  cases sent.head? <;> cases sent.getLast? <;> rfl

section
variable (l : Link) (descriptor : String)

theorem Link.averageAll_untimed (quantity : Quantity) :
    l.untimed.averageAll descriptor quantity = l.averageAll descriptor quantity := by
  have counted : l.untimed.received.count descriptor = l.received.count descriptor :=
    l.received.count_untimed descriptor
  rw [averageAll, counted, averageAll, average, average, untimed, Ledger.sample_untimed]
  cases l.received.sample descriptor (l.received.count descriptor) (.noReceived descriptor) with
  | error error => rfl
  | ok packets =>
    have sums : (packets.map Record.untimed).foldl
        (fun sum r => sum + Float.ofInt (r.quantity quantity)) 0 =
          packets.foldl (fun sum r => sum + Float.ofInt (r.quantity quantity)) 0 := by
      simp only [List.foldl_map, Record.quantity_untimed]
    exact congrArg (fun sum : Float => Except.ok (sum / _)) sums

theorem Link.lossAll_untimed : l.untimed.lossAll descriptor = l.lossAll descriptor := by
  have counted : l.untimed.base.count descriptor = l.base.count descriptor :=
    l.base.count_untimed descriptor
  rw [lossAll, counted, lossAll, loss, loss, untimed, Ledger.sample_untimed,
    Ledger.bucket?_untimed]
  cases l.base.sample descriptor (l.base.count descriptor) (.noTransmitted descriptor) with
  | error error => rfl
  | ok sent =>
    cases l.received.bucket? descriptor with
    | none => rfl
    | some arrived => exact Loss.measure_untimed descriptor sent arrived

/-- No summary looks at capture times. -/
theorem LinkSummary.ofLink_untimed (receiver sender : String) :
    ofLink receiver sender l.untimed descriptor = ofLink receiver sender l descriptor := by
  have counted : l.untimed.received.count descriptor = l.received.count descriptor :=
    l.received.count_untimed descriptor
  have base : l.untimed.base.count descriptor = l.base.count descriptor :=
    l.base.count_untimed descriptor
  rw [ofLink, ofLink, counted, base, Link.averageRssi?, counted, Link.averageAll_untimed,
    Link.lossAll_untimed, Link.averageRssi?]

end

theorem Correlator.links_untimed (c : Correlator) :
    c.untimed.links = c.links.map fun (receiver, sender, link) =>
      (receiver, sender, link.untimed) := by
  rw [links, untimed, Directory.values_map, List.flatMap_map, links, List.map_flatMap]
  refine List.flatMap_congr fun node _ => ?_
  rw [Receiver.untimed, Directory.map, List.map_map, List.map_map]
  rfl

theorem Correlator.summaries_untimed (c : Correlator) : c.untimed.summaries = c.summaries := by
  rw [summaries, links_untimed, List.flatMap_map, summaries]
  refine List.flatMap_congr fun (receiver, sender, link) _ => ?_
  have descriptors : link.untimed.base.descriptors = link.base.descriptors :=
    link.base.descriptors_untimed
  change link.untimed.base.descriptors.map _ = _
  rw [descriptors]
  exact List.map_congr_left fun descriptor _ =>
    LinkSummary.ofLink_untimed link descriptor receiver sender

end RangeTest
