import RangeTest.Proofs.Link.Requests
import RangeTest.Proofs.Loss.Increasing

namespace RangeTest

/-- The packets lost have the numbers that none of those which arrived has. -/
theorem Record.length_lost {sent : List Record} (distinct : (sent.map (·.packetNr)).Nodup)
    (arrived : List Record) :
    (lost sent arrived).length = (numbers sent \ numbers arrived).card := by
  rw [← card_numbers (distinct.sublist ((lost_sublist sent arrived).map _))]
  congr 1
  ext number
  simp only [lost, mem_numbers, Finset.mem_sdiff, List.mem_filter, List.mem_map,
    decide_eq_true_iff]
  constructor
  · rintro ⟨r, ⟨member, missing⟩, rfl⟩
    exact ⟨⟨r, member, rfl⟩, missing⟩
  · rintro ⟨⟨r, member, rfl⟩, missing⟩
    exact ⟨r, ⟨member, missing⟩, rfl⟩

/-- When more arrives, the packets that are not lost any more are those whose numbers are new. -/
theorem Record.length_lost_of_more {sent : List Record} (distinct : (sent.map (·.packetNr)).Nodup)
    {arrived all more : List Record} (together : numbers all = numbers arrived ∪ numbers more) :
    (lost sent arrived).length = (lost sent all).length +
      (numbers sent ∩ (numbers more \ numbers arrived)).card := by
  rw [length_lost distinct, length_lost distinct, together, ← Finset.sup_eq_union,
    ← sdiff_sdiff, ← Finset.card_sdiff_add_card_inter (numbers sent \ numbers arrived) (numbers more)]
  congr 2
  ext number
  simp only [Finset.mem_inter, Finset.mem_sdiff]
  tauto

section
variable {packets sent arrived longer all sample : List Record} {amount : Nat}
  {descriptor : String}

/-- More packets behind them do not change the first ones. -/
theorem Record.Sampled.of_prefix (sampled : Sampled packets amount sample)
    (grown : packets <+: longer) : Sampled longer amount sample := by
  obtain ⟨rest, rfl⟩ := grown
  refine ⟨sampled.positive, ?_, ?_⟩
  · rw [List.length_append]
    exact Nat.le_add_right_of_le sampled.enough
  · rw [List.take_append_of_le_length sampled.enough]
    exact sampled.taken

/-- A mean that was given is given again after more packets are received. -/
theorem Quantity.Answer.of_prefix {quantity : Quantity} {mean : Float}
    (answer : Answer descriptor quantity arrived amount (.ok mean)) (grown : arrived <+: all) :
    Answer descriptor quantity all amount (.ok mean) := by
  cases answer with
  | mean sampled => exact .mean (sampled.of_prefix grown)

/-- What came of a comparison comes of it again after more packets are sent. -/
theorem Loss.Answer.of_prefix {outcome : Except LinkError Loss}
    (answer : Answer descriptor sent arrived amount outcome) (grown : sent <+: longer)
    (compared : (∃ loss, outcome = .ok loss) ∨
      ∃ named first last, outcome = .error (.degenerateSequence named first last)) :
    Answer descriptor longer arrived amount outcome := by
  cases answer with
  | unsampled reason =>
    obtain ⟨_, success⟩ | ⟨_, _, _, disordered⟩ := compared
    · cases success
    · cases disordered
      cases reason
  | compared sampled measured => exact .compared (sampled.of_prefix grown) measured

/-- When more packets are sent and received, the loss among the first ones is measured against the
same total. -/
theorem Loss.Answer.counted_again {loss : Loss}
    (answer : Answer descriptor sent arrived amount (.ok loss)) (something : arrived ≠ [])
    (sentMore : sent <+: longer) (arrivedMore : arrived <+: all) :
    ∃ total, loss = .counted (Record.lost (sent.take amount) arrived).length total ∧
      Answer descriptor longer all amount
        (.ok (.counted (Record.lost (sent.take amount) all).length total)) := by
  cases answer with
  | compared sampled measured =>
    cases measured with
    | silent nothing => exact absurd nothing something
    | counted _ head tail ordered total positive =>
      obtain rfl := sampled.taken
      have still : all ≠ [] := fun empty => something (List.prefix_nil.1 (empty ▸ arrivedMore))
      exact ⟨_, rfl, .compared (sampled.of_prefix sentMore)
        (.counted still head tail ordered total positive)⟩

end

/-- Of the first packets sent, those are not lost any more that have arrived since. -/
theorem Link.length_lost_append (history more : List (Side × Record)) (descriptor : String)
    (amount : Nat) :
    let sample := (kept history .base descriptor).take amount
    let new := Record.numbers (loggedWith more .received descriptor) \
      Record.numbers (loggedWith history .received descriptor)
    (Record.lost sample (kept (history ++ more) .received descriptor)).length +
        (Record.numbers sample ∩ new).card =
      (Record.lost sample (kept history .received descriptor)).length := by
  intro sample new
  have distinct : (sample.map (·.packetNr)).Nodup :=
    (Record.firsts_distinct (loggedWith history .base descriptor)).sublist
      ((List.take_sublist amount _).map _)
  have counts := Record.length_lost_of_more distinct
    (numbers_kept_append history more .received descriptor)
  rw [numbers_kept] at counts
  exact counts.symm

/-- What is requested over the first packets of a link does not change when more is logged on it. A
mean stays as it is. So does a loss if nothing more is received, and otherwise it keeps its total and
loses the packets that have arrived since. -/
theorem Link.requests_stable (history more : List (Side × Record)) (descriptor : String)
    (amount : Nat) :
    let before := run history
    let after := run (history ++ more)
    (∀ quantity mean, before.average descriptor quantity amount = .ok mean →
      after.average descriptor quantity amount = .ok mean) ∧
    ((∀ entry ∈ more, entry.1 = .base) →
      (∀ loss, before.loss descriptor amount = .ok loss →
        after.loss descriptor amount = .ok loss) ∧
      ∀ named first last,
        before.loss descriptor amount = .error (.degenerateSequence named first last) →
        after.loss descriptor amount = .error (.degenerateSequence named first last)) ∧
    ∀ loss, before.loss descriptor amount = .ok loss →
      (∃ r ∈ logged history .received, r.descriptor = descriptor) →
      let sample := Record.numbers ((before.base.packets descriptor).take amount)
      let arrived := Record.numbers (loggedWith history .received descriptor)
      let new := Record.numbers (loggedWith more .received descriptor) \ arrived
      ∃ lost lost' total, loss = .counted lost total ∧
        after.loss descriptor amount = .ok (.counted lost' total) ∧
        lost' + (sample ∩ new).card = lost := by
  intro before after
  have sentMore := kept_prefix history more .base descriptor
  have receivedMore := kept_prefix history more .received descriptor
  refine ⟨fun quantity mean given => ?_, fun onlySent => ?_, fun loss given something => ?_⟩
  · have answer := average_run history descriptor quantity amount
    rw [given] at answer
    exact (average_run (history ++ more) descriptor quantity amount).unique
      (answer.of_prefix receivedMore)
  · have same : kept (history ++ more) .received descriptor = kept history .received descriptor :=
      kept_append_of_other (by decide) onlySent descriptor
    have again := loss_run (history ++ more) descriptor amount
    have answer := loss_run history descriptor amount
    rw [same] at again
    refine ⟨fun loss given => ?_, fun named first last given => ?_⟩
    · rw [given] at answer
      exact again.unique (answer.of_prefix sentMore (Or.inl ⟨_, rfl⟩))
    · rw [given] at answer
      exact again.unique (answer.of_prefix sentMore (Or.inr ⟨_, _, _, rfl⟩))
  · intro sample arrived new
    have answer := loss_run history descriptor amount
    rw [given] at answer
    obtain ⟨total, counted, again⟩ :=
      answer.counted_again (kept_ne_nil something) sentMore receivedMore
    refine ⟨_, _, total, counted, (loss_run (history ++ more) descriptor amount).unique again, ?_⟩
    have sampled : sample = Record.numbers ((kept history .base descriptor).take amount) :=
      congrArg (fun packets => Record.numbers (packets.take amount))
        (packets_run history .base descriptor)
    rw [sampled]
    exact length_lost_append history more descriptor amount

/-- The mean, the loss and the disorder stay as they are when packets are sent again, and one of the
two packets lost is received in the end. -/
theorem Link.requests_stable_gapped :
    let resent : List (Side × Record) := [(.base, .sample 4 "B"), (.base, .sample 3 "B")]
    let arrived : List (Side × Record) :=
      [(.received, .sample 1 "A"), (.base, .sample 3 "B"), (.received, .sample 2 "A")]
    let disordered : List (Side × Record) :=
      [(.base, .sample 5 "B"), (.received, .sample 5 "A"), (.base, .sample 1 "B")]
    (run gapped).average "GFSK" .rssi 1 = .ok (-60) ∧
    (run (gapped ++ arrived)).average "GFSK" .rssi 1 = .ok (-60) ∧
    (run gapped).loss "GFSK" 3 = .ok (.counted 2 4) ∧
    (run (gapped ++ resent)).loss "GFSK" 3 = .ok (.counted 2 4) ∧
    (run (gapped ++ arrived)).loss "GFSK" 3 = .ok (.counted 1 4) ∧
    (run disordered).loss "GFSK" 2 = .error (.degenerateSequence "GFSK" 5 1) ∧
    (run (disordered ++ resent)).loss "GFSK" 2 = .error (.degenerateSequence "GFSK" 5 1) := by
  intro resent arrived disordered
  have mean : (run gapped).average "GFSK" .rssi 1 = .ok (-60) := by decide
  have loss : (run gapped).loss "GFSK" 3 = .ok (.counted 2 4) := by decide
  have disorder : (run disordered).loss "GFSK" 2 = .error (.degenerateSequence "GFSK" 5 1) := by
    decide
  have heard : ∃ r ∈ logged gapped .received, r.descriptor = "GFSK" := by decide
  have onlySent : ∀ entry ∈ resent, entry.1 = .base := by decide
  have new : (Record.numbers (((run gapped).base.packets "GFSK").take 3) ∩
      (Record.numbers (loggedWith arrived .received "GFSK") \
        Record.numbers (loggedWith gapped .received "GFSK"))).card = 1 := by decide
  obtain ⟨lost, lost', total, counted, again, fewer⟩ :=
    (requests_stable gapped arrived "GFSK" 3).2.2 _ loss heard
  cases counted
  rw [new] at fewer
  obtain rfl : lost' = 1 := by omega
  exact ⟨mean, (requests_stable gapped arrived "GFSK" 1).1 _ _ mean, loss,
    ((requests_stable gapped resent "GFSK" 3).2.1 onlySent).1 _ loss, again, disorder,
    ((requests_stable disordered resent "GFSK" 2).2.1 onlySent).2 _ _ _ disorder⟩

end RangeTest
