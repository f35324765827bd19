import RangeTest.Proofs.Link.Logged
import RangeTest.Proofs.Loss.Measure

namespace RangeTest

/-- The first packets of some, as many as asked for and at least one. -/
structure Record.Sampled (packets : List Record) (amount : Nat) (sample : List Record) : Prop where
  positive : 0 < amount
  enough : amount ≤ packets.length
  taken : sample = packets.take amount

/-- Why there is no sample: there are no packets at all, none is asked for, or there are not as many
as asked for. Each reason counts only where those before it do not hold. -/
inductive Record.Unsampled (packets : List Record) (amount : Nat) (absent : LinkError) :
    LinkError → Prop
  | absent : packets = [] → Unsampled packets amount absent absent
  | none : packets ≠ [] → amount = 0 → Unsampled packets amount absent .invalidSampleCount
  | few : packets ≠ [] → amount ≠ 0 → packets.length < amount →
      Unsampled packets amount absent (.notEnoughSamples amount packets.length)

/-- What comes of comparing packets sent with those that arrived. The total is a whole number of its
own, so nothing wraps around in it. -/
inductive Loss.Compared (descriptor : String) (sent arrived : List Record) :
    Except LinkError Loss → Prop
  | silent : arrived = [] → Compared descriptor sent arrived (.ok .whole)
  | disordered {first last : Record} : arrived ≠ [] → sent.head? = some first →
      sent.getLast? = some last → last.packetNr < first.packetNr →
      Compared descriptor sent arrived
        (.error (.degenerateSequence descriptor first.packetNr last.packetNr))
  | counted {first last : Record} {total : Nat} : arrived ≠ [] → sent.head? = some first →
      sent.getLast? = some last → ¬ last.packetNr < first.packetNr →
      (total : Int) = last.packetNr.toNat - first.packetNr.toNat + 1 → 1 ≤ total →
      Compared descriptor sent arrived (.ok (.counted (Record.lost sent arrived).length total))

/-- What is answered to a request for the loss among the first packets sent. -/
inductive Loss.Answer (descriptor : String) (sent arrived : List Record) (amount : Nat) :
    Except LinkError Loss → Prop
  | unsampled {error : LinkError} : Record.Unsampled sent amount (.noTransmitted descriptor) error →
      Answer descriptor sent arrived amount (.error error)
  | compared {sample : List Record} {outcome : Except LinkError Loss} :
      Record.Sampled sent amount sample → Compared descriptor sample arrived outcome →
      Answer descriptor sent arrived amount outcome

/-- What is answered to a request for the mean of a quantity over the first packets received, which
are summed up in their order. -/
inductive Quantity.Answer (descriptor : String) (quantity : Quantity) (arrived : List Record)
    (amount : Nat) : Except LinkError Float → Prop
  | unsampled {error : LinkError} : Record.Unsampled arrived amount (.noReceived descriptor) error →
      Answer descriptor quantity arrived amount (.error error)
  | mean {sample : List Record} : Record.Sampled arrived amount sample →
      Answer descriptor quantity arrived amount
        (.ok (sample.foldl (fun sum r => sum + Float.ofInt (r.quantity quantity)) 0 /
          Float.ofNat amount))

section
variable {packets sent arrived sample other : List Record} {amount : Nat} {absent : LinkError}
  {error : LinkError} {descriptor : String}

theorem Record.Sampled.not_unsampled (sampled : Sampled packets amount sample) :
    ¬ Unsampled packets amount absent error := by
  have positive := sampled.positive
  have enough := sampled.enough
  rintro (empty | ⟨_, none⟩ | ⟨_, _, few⟩)
  · rw [empty, List.length_nil] at enough
    omega
  · omega
  · omega

theorem Record.Unsampled.unique {error' : LinkError} (one : Unsampled packets amount absent error)
    (two : Unsampled packets amount absent error') : error = error' := by
  cases one with
  | absent empty =>
    cases two with
    | absent => rfl
    | none nonempty => exact absurd empty nonempty
    | few nonempty => exact absurd empty nonempty
  | none nonempty zero =>
    cases two with
    | absent empty => exact absurd empty nonempty
    | none => rfl
    | few _ positive => exact absurd zero positive
  | few nonempty positive _ =>
    cases two with
    | absent empty => exact absurd empty nonempty
    | none _ zero => exact absurd zero positive
    | few => rfl

/-- All packets make a sample unless there are none at all. -/
theorem Record.Unsampled.of_all (unsampled : Unsampled packets packets.length absent error) :
    packets = [] ∧ error = absent := by
  cases unsampled with
  | absent empty => exact ⟨empty, rfl⟩
  | none nonempty zero => exact absurd (List.length_eq_zero_iff.1 zero) nonempty
  | few _ _ few => exact absurd few (Nat.lt_irrefl _)

theorem Loss.Compared.unique {one two : Except LinkError Loss}
    (first : Compared descriptor sent arrived one)
    (second : Compared descriptor sent arrived two) : one = two := by
  cases first with
  | silent nothing =>
    cases second with
    | silent => rfl
    | disordered something => exact absurd nothing something
    | counted something => exact absurd nothing something
  | disordered something head tail disorder =>
    cases second with
    | silent nothing => exact absurd nothing something
    | disordered _ head' tail' =>
      cases head.symm.trans head'
      cases tail.symm.trans tail'
      rfl
    | counted _ head' tail' order =>
      cases head.symm.trans head'
      cases tail.symm.trans tail'
      exact absurd disorder order
  | counted something head tail order total =>
    cases second with
    | silent nothing => exact absurd nothing something
    | disordered _ head' tail' disorder =>
      cases head.symm.trans head'
      cases tail.symm.trans tail'
      exact absurd disorder order
    | counted _ head' tail' _ total' =>
      cases head.symm.trans head'
      cases tail.symm.trans tail'
      rw [Int.ofNat_inj.1 (total.trans total'.symm)]

/-- Only one answer can be given to a request for the loss. -/
theorem Loss.Answer.unique {one two : Except LinkError Loss}
    (first : Answer descriptor sent arrived amount one)
    (second : Answer descriptor sent arrived amount two) : one = two := by
  cases first with
  | unsampled reason =>
    cases second with
    | unsampled reason' => rw [reason.unique reason']
    | compared sampled => exact absurd reason sampled.not_unsampled
  | compared sampled compared =>
    cases second with
    | unsampled reason => exact absurd reason sampled.not_unsampled
    | compared sampled' compared' =>
      obtain rfl := sampled.taken.trans sampled'.taken.symm
      exact compared.unique compared'

/-- A request for the loss among all packets fails only for want of packets or for their order. -/
theorem Loss.Answer.of_all (answer : Answer descriptor sent arrived sent.length (.error error)) :
    error = .noTransmitted descriptor ∨
      ∃ first last, error = .degenerateSequence descriptor first last := by
  cases answer with
  | unsampled reason => exact Or.inl reason.of_all.2
  | compared _ compared =>
    cases compared with
    | disordered => exact Or.inr ⟨_, _, rfl⟩

/-- Only one answer can be given to a request for a mean. -/
theorem Quantity.Answer.unique {quantity : Quantity} {one two : Except LinkError Float}
    (first : Answer descriptor quantity arrived amount one)
    (second : Answer descriptor quantity arrived amount two) : one = two := by
  cases first with
  | unsampled reason =>
    cases second with
    | unsampled reason' => rw [reason.unique reason']
    | mean sampled => exact absurd reason sampled.not_unsampled
  | mean sampled =>
    cases second with
    | unsampled reason => exact absurd reason sampled.not_unsampled
    | mean sampled' =>
      obtain rfl := sampled.taken.trans sampled'.taken.symm
      rfl

/-- A request for the mean over all packets fails only for want of packets. -/
theorem Quantity.Answer.of_all {quantity : Quantity}
    (answer : Answer descriptor quantity arrived arrived.length (.error error)) :
    error = .noReceived descriptor := by
  cases answer with
  | unsampled reason => exact reason.of_all.2

end

/-- A ledger gives the sample asked for, or the reason why there is none. -/
theorem Ledger.WellFormed.sample_cases {kind : Record → Prop} {l : Ledger}
    (formed : l.WellFormed kind) (descriptor : String) (amount : Nat) (absent : LinkError) :
    (∃ sample, l.sample descriptor amount absent = .ok sample ∧
      Record.Sampled (l.packets descriptor) amount sample) ∨
    ∃ error, l.sample descriptor amount absent = .error error ∧
      Record.Unsampled (l.packets descriptor) amount absent error := by
  cases found : l.bucket? descriptor with
  | none =>
    have empty := (formed.bucket?_eq_none_iff descriptor).1 found
    refine Or.inr ⟨absent, ?_, .absent empty⟩
    rw [sample, found]
  | some b =>
    have held : l.packets descriptor = b.packets := by simp [packets, bucket, found]
    have nonempty : b.packets ≠ [] := by
      rw [← held]
      exact mt (formed.bucket?_eq_none_iff descriptor).2 (by simp [found])
    rw [sample, found, held]
    dsimp only
    by_cases zero : amount = 0
    · rw [if_pos zero]
      exact Or.inr ⟨_, rfl, .none nonempty zero⟩
    · rw [if_neg zero]
      by_cases few : b.packets.length < amount
      · rw [if_pos few]
        exact Or.inr ⟨_, rfl, .few nonempty zero few⟩
      · rw [if_neg few]
        exact Or.inl ⟨_, rfl, Nat.pos_of_ne_zero zero, Nat.not_lt.1 few, rfl⟩

/-- A link answers every request for a loss as it should. -/
theorem Link.loss_answer {kind other : Record → Prop} {l : Link}
    (base : l.base.WellFormed kind) (arrivals : l.received.WellFormed other) (descriptor : String)
    (amount : Nat) :
    Loss.Answer descriptor (l.base.packets descriptor) (l.received.packets descriptor) amount
      (l.loss descriptor amount) := by
  obtain ⟨sample, given, sampled⟩ | ⟨error, given, reason⟩ :=
    base.sample_cases descriptor amount (.noTransmitted descriptor)
  · obtain ⟨first, last, head, tail, measured⟩ :=
      loss_eq arrivals sampled.positive sampled.enough
    refine .compared sampled ?_
    rw [← sampled.taken] at head tail measured
    rw [measured]
    by_cases nothing : l.received.packets descriptor = []
    · rw [if_pos nothing]
      exact .silent nothing
    · rw [if_neg nothing]
      by_cases disorder : last.packetNr < first.packetNr
      · rw [if_pos disorder]
        exact .disordered nothing head tail disorder
      · rw [if_neg disorder]
        have ordered := UInt32.le_iff_toNat_le.1 (UInt32.not_lt.1 disorder)
        refine .counted nothing head tail disorder ?_ (Record.span_pos first last)
        rw [Record.span]
        omega
  · rw [loss, given]
    exact .unsampled reason

/-- A link answers every request for a mean as it should. -/
theorem Link.average_answer {kind : Record → Prop} {l : Link}
    (arrivals : l.received.WellFormed kind) (descriptor : String) (quantity : Quantity)
    (amount : Nat) :
    Quantity.Answer descriptor quantity (l.received.packets descriptor) amount
      (l.average descriptor quantity amount) := by
  obtain ⟨sample, given, sampled⟩ | ⟨error, given, reason⟩ :=
    arrivals.sample_cases descriptor amount (.noReceived descriptor)
  · rw [average, given]
    exact .mean sampled
  · rw [average, given]
    exact .unsampled reason

/-- A request for all packets is not refused for the amount asked for. -/
theorem Link.all_not_refused {kind other : Record → Prop} {l : Link}
    (base : l.base.WellFormed kind) (arrivals : l.received.WellFormed other) (descriptor : String)
    (quantity : Quantity) (requested available : Nat) :
    (l.lossAll descriptor ≠ .error .invalidSampleCount ∧
      l.lossAll descriptor ≠ .error (.notEnoughSamples requested available)) ∧
    (l.averageAll descriptor quantity ≠ .error .invalidSampleCount ∧
      l.averageAll descriptor quantity ≠ .error (.notEnoughSamples requested available)) := by
  have loss : Loss.Answer descriptor _ _ _ (l.lossAll descriptor) :=
    loss_answer base arrivals descriptor _
  have mean : Quantity.Answer descriptor quantity _ _ (l.averageAll descriptor quantity) :=
    average_answer arrivals descriptor quantity _
  refine ⟨⟨fun failed => ?_, fun failed => ?_⟩, fun failed => ?_, fun failed => ?_⟩
  · exact absurd (failed ▸ loss).of_all (by simp)
  · exact absurd (failed ▸ loss).of_all (by simp)
  · exact absurd (failed ▸ mean).of_all (by simp)
  · exact absurd (failed ▸ mean).of_all (by simp)

/-- The answer to a request for a loss follows from the packets that the link was given. -/
theorem Link.loss_run (history : List (Side × Record)) (descriptor : String) (amount : Nat) :
    Loss.Answer descriptor (kept history .base descriptor) (kept history .received descriptor)
      amount ((run history).loss descriptor amount) :=
  packets_run history .base descriptor ▸ packets_run history .received descriptor ▸
    loss_answer (wellFormed_run history .base) (wellFormed_run history .received) descriptor amount

/-- The answer to a request for a mean follows from the packets that the link was given. -/
theorem Link.average_run (history : List (Side × Record)) (descriptor : String)
    (quantity : Quantity) (amount : Nat) :
    Quantity.Answer descriptor quantity (kept history .received descriptor) amount
      ((run history).average descriptor quantity amount) :=
  packets_run history .received descriptor ▸
    average_answer (wellFormed_run history .received) descriptor quantity amount

/-- Every request for a loss or for a mean has one answer, which follows from the packets that the
link was given: the first of every number, on each side. A request for all packets is one for as
many as there are, so it fails for nothing but the packets themselves. -/
theorem Link.requests_decided (history : List (Side × Record)) (descriptor : String) :
    let link := run history
    let sent := kept history .base descriptor
    let arrived := kept history .received descriptor
    (∀ amount outcome, link.loss descriptor amount = outcome ↔
      Loss.Answer descriptor sent arrived amount outcome) ∧
    (Loss.whole.ratio = 1.0 ∧ ∀ lost total,
      (Loss.counted lost total).ratio = Float.ofNat lost / Float.ofNat total) ∧
    (∀ quantity amount outcome, link.average descriptor quantity amount = outcome ↔
      Quantity.Answer descriptor quantity arrived amount outcome) ∧
    link.lossAll descriptor = link.loss descriptor sent.length ∧
    (∀ quantity, link.averageAll descriptor quantity =
      link.average descriptor quantity arrived.length) ∧
    ∀ quantity requested available,
      (link.lossAll descriptor ≠ .error .invalidSampleCount ∧
        link.lossAll descriptor ≠ .error (.notEnoughSamples requested available)) ∧
      (link.averageAll descriptor quantity ≠ .error .invalidSampleCount ∧
        link.averageAll descriptor quantity ≠ .error (.notEnoughSamples requested available)) := by
  intro link sent arrived
  have base : link.base.WellFormed _ := wellFormed_run history .base
  have arrivals : link.received.WellFormed _ := wellFormed_run history .received
  have filed : link.base.packets descriptor = sent := packets_run history .base descriptor
  have received : link.received.packets descriptor = arrived :=
    packets_run history .received descriptor
  refine ⟨fun amount outcome => ?_, ⟨rfl, fun _ _ => rfl⟩, fun quantity amount outcome => ?_, ?_,
    fun quantity => ?_, all_not_refused base arrivals descriptor⟩
  · have answer := loss_run history descriptor amount
    exact ⟨fun given => given ▸ answer, answer.unique⟩
  · have answer := average_run history descriptor quantity amount
    exact ⟨fun given => given ▸ answer, answer.unique⟩
  · rw [lossAll, Ledger.count, filed]
  · rw [averageAll, Ledger.count, received]

end RangeTest
