import RangeTest.Proofs.Binary64.Order
import RangeTest.Proofs.Link.History
import RangeTest.Proofs.Loss.Proportion

namespace RangeTest

/-- The share of the packets that was lost, before it is rounded. -/
def Loss.exact : Loss → ℚ
  | whole => 1
  | counted lost total => lost / total

/-- The packet numbers increase. -/
def Record.Increasing (records : List Record) : Prop :=
  records.Pairwise (·.packetNr < ·.packetNr)

/-- Every packet has the number after that of the packet before it. -/
def Record.Consecutive (records : List Record) : Prop :=
  records.IsChain fun r next => next.packetNr.toNat = r.packetNr.toNat + 1

/-- Packets with increasing numbers are no more than the numbers of their span, and they are as many
if and only if no number between them is left out. -/
theorem Record.Increasing.length_le_span {first last : Record} {rest : List Record}
    (increasing : Increasing (first :: rest)) (tail : (first :: rest).getLast? = some last) :
    first.packetNr.toNat ≤ last.packetNr.toNat ∧
      (first :: rest).length ≤ span first last ∧
      ((first :: rest).length = span first last ↔ Consecutive (first :: rest)) := by
  induction rest generalizing first with
  | nil =>
    obtain rfl : first = last := Option.some.inj tail
    have one : span first first = 1 := by rw [span, Nat.sub_self]
    rw [one]
    exact ⟨le_rfl, le_rfl, iff_of_true rfl (.singleton _)⟩
  | cons second rest ih =>
    obtain ⟨least, others⟩ := List.pairwise_cons.1 increasing
    have step := UInt32.lt_iff_toNat_lt.1 (least second List.mem_cons_self)
    rw [List.getLast?_cons_cons] at tail
    obtain ⟨ordered, room, full⟩ := ih others tail
    rw [List.length_cons, Consecutive, List.isChain_cons_cons, ← Consecutive, ← full]
    -- The span grows by the step to the second packet, the list by one.
    unfold span at room ⊢
    exact ⟨by omega, by omega, by omega⟩

/-- The loss among packets sent in order. Nothing is counted if nothing arrived. -/
def Loss.among (first last : Record) (sent arrived : List Record) : Loss :=
  if arrived = [] then .whole
  else .counted (Record.lost sent arrived).length (Record.span first last)

theorem Record.lost_nil (sent : List Record) : lost sent [] = sent := by
  simp [lost]

theorem Record.lost_eq_nil_iff {sent arrived : List Record} :
    lost sent arrived = [] ↔ ∀ r ∈ sent, ∃ packet ∈ arrived, packet.packetNr = r.packetNr := by
  simp [lost, List.filter_eq_nil_iff]

/-- The more arrives, the less is lost. -/
theorem Record.length_lost_le {sent arrived more : List Record} (grown : arrived ⊆ more) :
    (lost sent more).length ≤ (lost sent arrived).length := by
  rw [lost, lost, ← List.countP_eq_length_filter, ← List.countP_eq_length_filter]
  refine List.countP_mono_left fun r _ missing => ?_
  rw [decide_eq_true_iff] at missing ⊢
  exact fun found => missing (List.map_subset _ grown found)

section
variable {first last : Record} {sent arrived more : List Record}

/-- If no number is left out, the loss is the packets lost out of the packets sent, also if nothing
arrived. -/
theorem Loss.among_of_consecutive (nonempty : sent ≠ [])
    (full : sent.length = Record.span first last) :
    (among first last sent arrived).exact = (Record.lost sent arrived).length / sent.length ∧
    (among first last sent arrived).ratio =
      Float.ofNat (Record.lost sent arrived).length / Float.ofNat sent.length := by
  have positive := List.length_pos_of_ne_nil nonempty
  have short := Record.span_le first last
  rw [among]
  split
  · rename_i nothing
    rw [nothing, Record.lost_nil]
    have counted : (sent.length : ℚ) ≠ 0 := Nat.cast_ne_zero.2 (Nat.ne_of_gt positive)
    exact ⟨(div_self counted).symm, (Normal.ofNat positive (by omega)).div_self.symm⟩
  · rw [full]
    exact ⟨rfl, rfl⟩

variable (room : sent.length ≤ Record.span first last)

include room

theorem Record.length_lost_le_span : (lost sent arrived).length ≤ span first last :=
  (lost_sublist sent arrived).length_le.trans room

/-- The loss is a proportion, exactly and when it is rounded. -/
theorem Loss.among_bounds : 0 ≤ (among first last sent arrived).exact ∧
    (among first last sent arrived).exact ≤ 1 ∧
    0 ≤ (among first last sent arrived).ratio ∧
    (among first last sent arrived).ratio ≤ 1.0 := by
  have few : (Record.lost sent arrived).length ≤ Record.span first last :=
    Record.length_lost_le_span room
  have short := Record.span_le first last
  have positive := Record.span_pos first last
  rw [among]
  split
  · exact ⟨zero_le_one, le_rfl, normal_one.zero_le, normal_one.le_refl⟩
  · obtain ⟨nonnegative, proportion, _⟩ := ofNat_div_proportion positive
      (lt_of_le_of_lt few (lt_of_le_of_lt short (by decide))) (lt_of_le_of_lt short (by decide))
    refine ⟨by rw [exact]; positivity, ?_, nonnegative, proportion.2 few⟩
    rw [exact, div_le_one (Nat.cast_pos.2 positive)]
    exact Nat.cast_le.2 few

/-- The loss is nothing if and only if every packet arrived. -/
theorem Loss.among_eq_zero_iff (nonempty : sent ≠ []) :
    ((among first last sent arrived).exact = 0 ↔
      ∀ r ∈ sent, ∃ packet ∈ arrived, packet.packetNr = r.packetNr) ∧
    ((among first last sent arrived).ratio = 0 ↔
      ∀ r ∈ sent, ∃ packet ∈ arrived, packet.packetNr = r.packetNr) := by
  have few : (Record.lost sent arrived).length ≤ Record.span first last :=
    Record.length_lost_le_span room
  have short := Record.span_le first last
  have positive := Record.span_pos first last
  rw [← Record.lost_eq_nil_iff, among]
  split
  · rename_i nothing
    rw [nothing, Record.lost_nil]
    exact ⟨iff_of_false one_ne_zero nonempty, iff_of_false normal_one.ne_zero nonempty⟩
  · rw [exact, ratio, ofNat_div_eq_zero_iff positive (by omega) (by omega), List.length_eq_zero_iff,
      div_eq_zero_iff, Nat.cast_eq_zero, Nat.cast_eq_zero, List.length_eq_zero_iff,
      or_iff_left (Nat.ne_of_gt positive)]
    exact ⟨Iff.rfl, Iff.rfl⟩

/-- The loss does not grow when more arrives. -/
theorem Loss.among_le (grown : arrived ⊆ more) :
    (among first last sent more).exact ≤ (among first last sent arrived).exact ∧
    (among first last sent more).ratio ≤ (among first last sent arrived).ratio := by
  by_cases nothing : arrived = []
  · have whole : among first last sent arrived = .whole := if_pos nothing
    rw [whole]
    exact ⟨(among_bounds room).2.1, (among_bounds room).2.2.2⟩
  · have something : more ≠ [] := fun empty => nothing (List.subset_nil.1 (empty ▸ grown))
    have fewer : (Record.lost sent more).length ≤ (Record.lost sent arrived).length :=
      Record.length_lost_le grown
    have few : (Record.lost sent arrived).length ≤ Record.span first last :=
      Record.length_lost_le_span room
    have short := Record.span_le first last
    rw [among, among, if_neg nothing, if_neg something]
    refine ⟨?_, ofNat_div_le_ofNat_div fewer (Record.span_pos first last) (few.trans short) short⟩
    rw [exact, exact]
    gcongr

end

/-- The loss among packets with increasing numbers can be measured whatever arrived. -/
theorem Link.loss_eq_among {kind : Record → Prop} {l : Link}
    (arrivals : l.received.WellFormed kind) {descriptor : String} {amount : Nat}
    (positive : 0 < amount) (enough : amount ≤ l.base.count descriptor)
    (increasing : Record.Increasing ((l.base.packets descriptor).take amount)) :
    let sent := (l.base.packets descriptor).take amount
    ∃ first last, sent.head? = some first ∧ sent.getLast? = some last ∧
      first.packetNr.toNat ≤ last.packetNr.toNat ∧ sent.length ≤ Record.span first last ∧
      (sent.length = Record.span first last ↔ Record.Consecutive sent) ∧
      l.loss descriptor amount =
        .ok (.among first last sent (l.received.packets descriptor)) := by
  intro sent
  obtain ⟨first, last, head, tail, measured⟩ := loss_eq arrivals positive enough
  obtain ⟨rest, parts⟩ := List.head?_eq_some_iff.1 head
  rw [parts] at increasing tail
  obtain ⟨ordered, room, full⟩ := increasing.length_le_span tail
  rw [← parts] at room full tail
  refine ⟨first, last, head, tail, ordered, room, full, ?_⟩
  have inOrder : ¬ last.packetNr < first.packetNr := fun less =>
    Nat.not_lt.2 ordered (UInt32.lt_iff_toNat_lt.1 less)
  rw [measured, Loss.among, if_neg inOrder]
  split <;> rfl

/-- What the loss is among packets with increasing numbers. It can always be measured, and it is a
proportion: nothing if every packet arrived, and the packets lost out of the packets sent if no
number is left out. Another packet that is received does not make it larger. -/
theorem Link.loss_of_increasing (history : List (Side × Record)) {descriptor : String}
    {amount : Nat} (positive : 0 < amount)
    (enough : amount ≤ (run history).base.count descriptor)
    (increasing :
      Record.Increasing (((run history).base.packets descriptor).take amount)) :
    let sent := ((run history).base.packets descriptor).take amount
    let arrived := (run history).received.packets descriptor
    let lost := (Record.lost sent arrived).length
    ∃ first last loss, sent.head? = some first ∧ sent.getLast? = some last ∧
      (run history).loss descriptor amount = .ok loss ∧
      (arrived = [] ∧ loss = .whole ∨
        arrived ≠ [] ∧ loss = .counted lost (Record.span first last)) ∧
      first.packetNr.toNat ≤ last.packetNr.toNat ∧
      lost ≤ amount ∧ amount ≤ Record.span first last ∧
      (0 ≤ loss.exact ∧ loss.exact ≤ 1 ∧ 0 ≤ loss.ratio ∧ loss.ratio ≤ 1.0) ∧
      ((loss.exact = 0 ↔ ∀ r ∈ sent, ∃ packet ∈ arrived, packet.packetNr = r.packetNr) ∧
        (loss.ratio = 0 ↔ ∀ r ∈ sent, ∃ packet ∈ arrived, packet.packetNr = r.packetNr)) ∧
      (amount = Record.span first last ↔ Record.Consecutive sent) ∧
      (amount = Record.span first last →
        loss.exact = lost / amount ∧ loss.ratio = Float.ofNat lost / Float.ofNat amount) ∧
      ∀ r, ∃ after, ((run history).addReceived r).2.loss descriptor amount = .ok after ∧
        after.exact ≤ loss.exact ∧ after.ratio ≤ loss.ratio := by
  intro sent arrived lost
  have arrivals := wellFormed_run history .received
  obtain ⟨first, last, head, tail, ordered, room, full, measured⟩ :=
    loss_eq_among arrivals positive enough increasing
  change sent.length ≤ Record.span first last at room
  have width : sent.length = amount := List.length_take_of_le enough
  have nonempty : sent ≠ [] := List.ne_nil_of_length_pos (width ▸ positive)
  have few : lost ≤ sent.length := (Record.lost_sublist sent arrived).length_le
  refine ⟨first, last, .among first last sent arrived, head, tail, measured, ?_, ordered,
    width ▸ few, width ▸ room, Loss.among_bounds room, Loss.among_eq_zero_iff room nonempty,
    width ▸ full, fun every => ?_, fun r => ?_⟩
  · rw [Loss.among]
    by_cases nothing : arrived = []
    · exact Or.inl ⟨nothing, if_pos nothing⟩
    · exact Or.inr ⟨nothing, if_neg nothing⟩
  · rw [← width] at every ⊢
    exact Loss.among_of_consecutive nonempty every
  · have later := wellFormed_run (history ++ [(.received, r)]) .received
    rw [run_concat] at later
    obtain ⟨_, _, again, behind, _, _, _, remeasured⟩ :=
      loss_eq_among later positive enough increasing
    obtain rfl := Option.some.inj (again.symm.trans head)
    obtain rfl := Option.some.inj (behind.symm.trans tail)
    have grown := ((run history).received.packets_prefix_add r descriptor).subset
    exact ⟨_, remeasured, Loss.among_le room grown⟩

/-- Packets with a gap in their numbers, of which one arrived. -/
def Link.gapped : List (Side × Record) :=
  [(.base, .sample 1 "B"), (.base, .sample 2 "B"), (.received, .sample 2 "A"),
    (.base, .sample 4 "B")]

/-- Half of the span is lost, and no packet that is received makes it more. -/
theorem Link.loss_of_increasing_gapped :
    (0 < 3 ∧ 3 ≤ (run gapped).base.count "GFSK" ∧
      Record.Increasing (((run gapped).base.packets "GFSK").take 3)) ∧
    (run gapped).loss "GFSK" 3 = .ok (.counted 2 4) ∧ (Loss.counted 2 4).exact ≤ 1 ∧
    ∀ r, ∃ after, ((run gapped).addReceived r).2.loss "GFSK" 3 = .ok after ∧
      after.exact ≤ (Loss.counted 2 4).exact := by
  have enough : 3 ≤ (run gapped).base.count "GFSK" := by decide +kernel
  have increasing : Record.Increasing (((run gapped).base.packets "GFSK").take 3) := by
    unfold Record.Increasing
    decide +kernel
  have half : (run gapped).loss "GFSK" 3 = .ok (.counted 2 4) := by decide +kernel
  obtain ⟨_, _, loss, _, _, measured, _, _, _, _, bounds, _, _, _, later⟩ :=
    loss_of_increasing gapped (by decide) enough increasing
  obtain rfl := Except.ok.inj (measured.symm.trans half)
  refine ⟨⟨by decide, enough, increasing⟩, half, bounds.2.1, fun r => ?_⟩
  obtain ⟨after, remeasured, atMost, _⟩ := later r
  exact ⟨after, remeasured, atMost⟩

end RangeTest
