import Mathlib.Data.List.Sort
import Mathlib.Data.String.Basic
import RangeTest.Proofs.Ledger.Numbers
import RangeTest.Proofs.Loss.Proportion
import RangeTest.Proofs.Summary.Mean

namespace RangeTest

theorem Directory.keys_ascending (d : Directory α) : d.keys.Pairwise (· < ·) :=
  List.pairwise_map.2 d.ascending

/-- Directories with the same keys list them in the same order. -/
theorem Directory.keys_eq_of_mem_iff {d : Directory α} {other : Directory β}
    (same : ∀ key, key ∈ d.keys ↔ key ∈ other.keys) : d.keys = other.keys :=
  d.keys_ascending.eq_of_mem_iff other.keys_ascending same

/-- All that a summary says but the value of the mean. -/
def LinkSummary.outline (s : LinkSummary) :
    String × String × String × Nat × Nat × Option Float × Bool :=
  (s.receiver, s.sender, s.descriptor, s.transmitted, s.received, s.lossRatio,
    s.averageRssi.isSome)

/-- Two links with the same base on which packets with the same numbers arrived, in whatever
order. -/
structure Link.Alike (l other : Link) : Prop where
  base : l.base = other.base
  numbers : ∀ descriptor, Record.numbers (l.received.packets descriptor) =
    Record.numbers (other.received.packets descriptor)

theorem Record.lost_congr {arrived others : List Record} (sent : List Record)
    (same : numbers arrived = numbers others) : lost sent arrived = lost sent others := by
  refine List.filter_congr fun r _ => ?_
  have member : r.packetNr ∈ arrived.map (·.packetNr) ↔ r.packetNr ∈ others.map (·.packetNr) := by
    rw [← List.mem_toFinset, ← List.mem_toFinset]
    exact iff_of_eq (congrArg (r.packetNr ∈ ·) same)
  simp only [member]

theorem Link.WellFormed.count_received {receiver sender : String} {l : Link}
    (formed : l.WellFormed receiver sender) (descriptor : String) :
    l.received.count descriptor = (Record.numbers (l.received.packets descriptor)).card :=
  (Record.card_numbers ((formed.ledgers .received).bucket_sound descriptor).distinct).symm

/-- Links that are alike are summed up alike, the value of the mean aside. -/
theorem Link.Alike.outline_eq {receiver sender : String} {l other : Link} (alike : l.Alike other)
    (formed : l.WellFormed receiver sender) (formedOther : other.WellFormed receiver sender)
    {descriptor : String} (listed : descriptor ∈ l.base.descriptors) :
    (LinkSummary.ofLink receiver sender l descriptor).outline =
      (LinkSummary.ofLink receiver sender other descriptor).outline := by
  have counts : l.received.count descriptor = other.received.count descriptor := by
    rw [formed.count_received, formedOther.count_received, alike.numbers]
  have emptiness : l.received.packets descriptor = [] ↔ other.received.packets descriptor = [] := by
    rw [← Record.numbers_eq_empty_iff, alike.numbers, Record.numbers_eq_empty_iff]
  have loss : l.lossAll descriptor = other.lossAll descriptor := by
    obtain ⟨first, last, head, tail, measured⟩ := lossAll_eq formed listed
    obtain ⟨first', last', head', tail', measured'⟩ :=
      lossAll_eq formedOther (alike.base ▸ listed)
    rw [← alike.base] at head' tail' measured'
    cases head.symm.trans head'
    cases tail.symm.trans tail'
    rw [measured, measured', Record.lost_congr _ (alike.numbers descriptor)]
    simp only [emptiness]
  have means : ((l.averageRssi? descriptor).bind Except.toOption).isSome =
      ((other.averageRssi? descriptor).bind Except.toOption).isSome := by
    have empty : (l.received.packets descriptor).isEmpty =
        (other.received.packets descriptor).isEmpty := by
      rw [Bool.eq_iff_iff, List.isEmpty_iff, List.isEmpty_iff, emptiness]
    rw [(formed.ledgers .received).averageRssi_eq, (formedOther.ledgers .received).averageRssi_eq,
      Quantity.isSome_mean?, Quantity.isSome_mean?, List.isEmpty_map, List.isEmpty_map, empty]
  simp only [LinkSummary.outline, LinkSummary.ofLink, means, counts, loss, alike.base]

/-- Two correlators with the same nodes whose links are alike. -/
structure Correlator.Alike (c other : Correlator) : Prop where
  keys : c.nodes.keys = other.nodes.keys
  links : ∀ receiver sender,
    ((c.nodeAt receiver).link sender).Alike ((other.nodeAt receiver).link sender)

theorem Link.Alike.packets_eq_nil_iff {l other : Link} (alike : l.Alike other) (side : Side)
    (descriptor : String) :
    (l.ledger side).packets descriptor = [] ↔ (other.ledger side).packets descriptor = [] := by
  cases side with
  | received =>
    rw [← Record.numbers_eq_empty_iff, ← Record.numbers_eq_empty_iff]
    exact (alike.numbers descriptor ▸ Iff.rfl)
  | base =>
    have same : l.ledger .base = other.ledger .base := alike.base
    rw [same]

theorem Correlator.Alike.sender_keys {c other : Correlator} (alike : c.Alike other)
    (formed : c.WellFormed) (formedOther : other.WellFormed) (receiver : String) :
    (c.nodeAt receiver).links.keys = (other.nodeAt receiver).links.keys := by
  refine Directory.keys_eq_of_mem_iff fun sender => ?_
  rw [(formed.nodeAt receiver).2.mem_links_keys_iff,
    (formedOther.nodeAt receiver).2.mem_links_keys_iff]
  simp only [ne_eq, (alike.links receiver sender).packets_eq_nil_iff]

/-- Correlators that are alike list summaries of the same links in the same order. -/
theorem Correlator.Alike.outlines_eq {c other : Correlator} (alike : c.Alike other)
    (formed : c.WellFormed) (formedOther : other.WellFormed) :
    c.summaries.map LinkSummary.outline = other.summaries.map LinkSummary.outline := by
  simp only [summaries, formed.links_eq, formedOther.links_eq, List.map_flatMap,
    List.flatMap_assoc, List.flatMap_map, ← alike.keys]
  refine List.flatMap_congr fun receiver _ => ?_
  rw [← alike.sender_keys formed formedOther]
  refine List.flatMap_congr fun sender linked => ?_
  have links := alike.links receiver sender
  have linkedToo := alike.sender_keys formed formedOther receiver ▸ linked
  rw [List.map_map, List.map_map, ← links.base]
  exact List.map_congr_left fun descriptor listed =>
    links.outline_eq (formed.link linked) (formedOther.link linkedToo) listed

theorem Record.receptions_perm {records others : List Record} (perm : records.Perm others)
    (receiver sender descriptor : String) :
    (receptions records receiver sender descriptor).Perm
      (receptions others receiver sender descriptor) :=
  perm.filter _

theorem Intake.logs_perm {received others : List Record} (perm : received.Perm others)
    (transmitted : List Record) : (logs received transmitted).Perm (logs others transmitted) :=
  (perm.map _).append_right _

/-- When a receiver is known does not depend on the order of the receive log. -/
theorem Record.entrance_perm {received others : List Record} (perm : received.Perm others)
    (transmitted : List Record) (receiver : String) :
    entrance received transmitted receiver = entrance others transmitted receiver := by
  simp only [entrance, (perm.map _).mem_iff]

theorem Receiver.offered_base_perm {received others : List Record} (perm : received.Perm others)
    (transmitted : List Record) (address sender : String) :
    offered address .base sender (Intake.logs received transmitted) =
      offered address .base sender (Intake.logs others transmitted) := by
  rw [offered_base, offered_base, Record.entrance_perm perm]

theorem Correlator.alike_of_perm {received others : List Record} (perm : received.Perm others)
    (transmitted : List Record) :
    (run (Intake.logs received transmitted)).Alike (run (Intake.logs others transmitted)) where
  keys := by
    refine Directory.keys_eq_of_mem_iff fun address => ?_
    simp only [mem_keys_run, (Intake.logs_perm perm transmitted).mem_iff]
  links receiver sender := by
    constructor
    · have base := ledger_run (Intake.logs received transmitted) .base receiver sender
      rw [Receiver.offered_base_perm perm, ← ledger_run] at base
      exact base
    · intro descriptor
      have first := packets_logs_received received transmitted receiver sender descriptor
      have second := packets_logs_received others transmitted receiver sender descriptor
      have numbers := Record.numbers_perm (Record.receptions_perm (perm.append_right transmitted)
        receiver sender descriptor)
      rw [← Record.numbers_firsts, ← Record.numbers_firsts (Record.receptions (others ++ _) _ _ _),
        ← first, ← second] at numbers
      exact numbers

theorem Correlator.duplicates_perm {received others : List Record} (perm : received.Perm others)
    (transmitted : List Record) :
    (run (Intake.logs received transmitted)).duplicates =
      (run (Intake.logs others transmitted)).duplicates := by
  have covered : ∀ i ∈ Intake.logs received transmitted,
      i.record.rxLinkAddr ∈ ((received ++ transmitted).map (·.rxLinkAddr)).toFinset ∧
      i.record.txLinkAddr ∈ ((received ++ transmitted).map (·.txLinkAddr)).toFinset ∧
      i.record.descriptor ∈ ((received ++ transmitted).map (·.descriptor)).toFinset := by
    intro i member
    have logged : i.record ∈ received ++ transmitted :=
      Intake.map_record_logs received transmitted ▸ List.mem_map_of_mem member
    simp only [List.mem_toFinset]
    exact ⟨List.mem_map_of_mem logged, List.mem_map_of_mem logged, List.mem_map_of_mem logged⟩
  have coveredToo := fun i member =>
    covered i ((Intake.logs_perm perm transmitted).mem_iff.2 member)
  rw [duplicates_run covered, duplicates_run coveredToo]
  refine Finset.sum_congr rfl fun receiver _ => ?_
  refine Finset.sum_congr rfl fun sender _ => Finset.sum_congr rfl fun descriptor _ => ?_
  rw [Receiver.repeats_logs_received, Receiver.repeats_logs_received,
    Record.repeats_perm (Record.receptions_perm (perm.append_right transmitted) ..),
    Receiver.repeats, Receiver.repeats, Receiver.offered_base_perm perm]

/-- What makes a record a repetition of another one. -/
def Record.identity (r : Record) : String × String × String × UInt32 :=
  (r.rxLinkAddr, r.txLinkAddr, r.descriptor, r.packetNr)

theorem Record.filter_receptions (records : List Record) {receiver sender : String}
    (other : sender ≠ receiver) (descriptor : String) (number : UInt32) :
    (receptions records receiver sender descriptor).filter (·.packetNr == number) =
      records.filter (·.identity == (receiver, sender, descriptor, number)) := by
  rw [receptions, List.filter_filter]
  refine List.filter_congr fun r _ => ?_
  rw [Bool.eq_iff_iff]
  simp only [identity, Bool.and_eq_true, beq_iff_eq, decide_eq_true_eq, Prod.mk.injEq]
  constructor
  · rintro ⟨nr, rx, tx, _, descr⟩
    exact ⟨rx, tx, descr, nr⟩
  · rintro ⟨rx, tx, descr, nr⟩
    exact ⟨nr, rx, tx, other.symm, descr⟩

/-- Repetitions that keep their order look the same for every identity, also for one that no record
has. -/
theorem Record.filter_identity_eq {records others : List Record} (perm : records.Perm others)
    (stable : ∀ r ∈ records, records.filter (·.identity == r.identity) =
      others.filter (·.identity == r.identity)) (identity : String × String × String × UInt32) :
    records.filter (·.identity == identity) = others.filter (·.identity == identity) := by
  by_cases found : ∃ r ∈ records, r.identity = identity
  · obtain ⟨r, member, rfl⟩ := found
    exact stable r member
  · have none : records.filter (·.identity == identity) = [] :=
      List.filter_eq_nil_iff.2 fun r member same => found ⟨r, member, by simpa using same⟩
    have length := (perm.filter (·.identity == identity)).length_eq
    rw [none] at length
    rw [none, List.length_eq_zero_iff.1 length.symm]

/-- The order of the receive log does not matter. Two orders give the same nodes, the same number of
duplicates, and summaries of the same links in the same order which agree on all but the values of
the means. Each mean is that of the packets received, and if records that repeat each other keep
their order, the two means are over the same values, in one order or another. -/
theorem Correlator.summaries_perm {received others : List Record} (perm : received.Perm others)
    (transmitted : List Record) :
    let c := run (Intake.logs received transmitted)
    let other := run (Intake.logs others transmitted)
    let values (c : Correlator) (s : LinkSummary) :=
      (c.packets .received s.receiver s.sender s.descriptor).map (·.quantity .rssi)
    c.nodes.keys = other.nodes.keys ∧ c.duplicates = other.duplicates ∧
      List.Forall₂ (fun s t => s.outline = t.outline ∧
          s.averageRssi = Quantity.mean? (values c s) ∧
          t.averageRssi = Quantity.mean? (values other t) ∧
          ((∀ r ∈ received, received.filter (·.identity == r.identity) =
              others.filter (·.identity == r.identity)) →
            (values c s).Perm (values other t)))
        c.summaries other.summaries := by
  intro c other values
  have alike : c.Alike other := alike_of_perm perm transmitted
  have formed : c.WellFormed := .run _
  have formedOther : other.WellFormed := .run _
  have outlines := alike.outlines_eq formed formedOther
  refine ⟨alike.keys, duplicates_perm perm transmitted, List.forall₂_iff_zip.2 ⟨?_, ?_⟩⟩
  · simpa using congrArg List.length outlines
  · intro s t paired
    have outline : s.outline = t.outline := by
      have pairs := List.forall₂_map_left_iff.1 (List.forall₂_map_right_iff.1
        (List.forall₂_eq_eq_eq ▸ outlines))
      exact (List.forall₂_iff_zip.1 pairs).2 paired
    obtain ⟨listed, listedToo⟩ := List.of_mem_zip paired
    refine ⟨outline, formed.averageRssi_of_mem listed, formedOther.averageRssi_of_mem listedToo, ?_⟩
    intro stable
    have senders := formed.sender_ne_receiver listed
    simp only [LinkSummary.outline, Prod.mk.injEq] at outline
    obtain ⟨receiver, sender, descriptor, _⟩ := outline
    simp only [values, ← receiver, ← sender, ← descriptor]
    refine List.Perm.map _ ?_
    simp only [c, other, packets_logs_received]
    refine Record.firsts_perm fun number => ?_
    rw [Record.filter_receptions _ senders, Record.filter_receptions _ senders,
      List.filter_append, List.filter_append, Record.filter_identity_eq perm stable]

/-- Two packets change places in the receive log, but the one received again comes second in both. -/
theorem Correlator.summaries_perm_swapped :
    let weak := { Record.sample 2 "A" with rssi := -70 }
    let again := { Record.sample 1 "A" with rssi := -80 }
    let received := [.sample 1 "A", weak, again]
    let others := [weak, .sample 1 "A", again]
    let c := run (Intake.logs received [.sample 1 "B", .sample 2 "B"])
    let other := run (Intake.logs others [.sample 1 "B", .sample 2 "B"])
    received.Perm others ∧
      (∀ r ∈ received, received.filter (·.identity == r.identity) =
        others.filter (·.identity == r.identity)) ∧
      c.summaries.map LinkSummary.subject = [("A", "B", "GFSK")] ∧ other.duplicates = 1 ∧
      List.Forall₂ (fun s t => s.outline = t.outline ∧
        ((c.packets .received s.receiver s.sender s.descriptor).map (·.quantity .rssi)).Perm
          ((other.packets .received t.receiver t.sender t.descriptor).map (·.quantity .rssi)))
        c.summaries other.summaries := by
  intro weak again received others c other
  have perm : received.Perm others := .swap ..
  have stable : ∀ r ∈ received, received.filter (·.identity == r.identity) =
      others.filter (·.identity == r.identity) := by decide +kernel
  have subjects : c.summaries.map LinkSummary.subject = [("A", "B", "GFSK")] := by decide +kernel
  have once : c.duplicates = 1 := by decide +kernel
  obtain ⟨_, duplicates, pairs⟩ := summaries_perm perm [.sample 1 "B", .sample 2 "B"]
  exact ⟨perm, stable, subjects, duplicates.symm.trans once,
    pairs.imp fun s t agree => ⟨agree.1, agree.2.2.2 stable⟩⟩

end RangeTest
