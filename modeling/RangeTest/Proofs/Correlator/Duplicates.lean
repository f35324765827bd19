import Mathlib.Algebra.BigOperators.Group.Finset.Piecewise
import Mathlib.Data.List.Nodup
import RangeTest.Proofs.Correlator.Offered

namespace RangeTest

/-- How many records with a descriptor a node was to file on a side of the link to a sender although
their numbers were used. -/
def Receiver.repeats (address : String) (side : Side) (sender descriptor : String)
    (history : List Intake) : Nat :=
  Record.repeats ((offered address side sender history).filter (·.descriptor == descriptor))

theorem Receiver.repeats_concat (address : String) (side : Side) (sender descriptor : String)
    (history : List Intake) (i : Intake) :
    repeats address side sender descriptor (history ++ [i]) =
      repeats address side sender descriptor history +
        if address ∈ (Correlator.run history).audience i ∧ side? address i.record = some side ∧
            sender = i.record.txLinkAddr ∧ descriptor = i.record.descriptor then
          (((Correlator.run history).nodeAt address).refusal? i.record).isSome.toNat
        else 0 := by
  rw [repeats, offered_concat, List.filter_append]
  by_cases offer : address ∈ (Correlator.run history).audience i ∧
      side? address i.record = some side ∧ sender = i.record.txLinkAddr
  · obtain ⟨sees, concerned, rfl⟩ := offer
    rw [if_pos ⟨sees, concerned, rfl⟩]
    by_cases same : descriptor = i.record.descriptor
    · subst same
      have filed : [i.record].filter (·.descriptor == i.record.descriptor) = [i.record] := by simp
      rw [if_pos ⟨sees, concerned, rfl, rfl⟩, Correlator.isSome_refusal?_run concerned, filed,
        Record.repeats_concat, repeats]
      split <;> rename_i used <;> simp [used]
    · have other : ¬ i.record.descriptor = descriptor := fun h => same h.symm
      simp [same, other, repeats]
  · have nothing : ¬ (address ∈ (Correlator.run history).audience i ∧
        side? address i.record = some side ∧ sender = i.record.txLinkAddr ∧
          descriptor = i.record.descriptor) :=
      fun all => offer ⟨all.1, all.2.1, all.2.2.1⟩
    rw [if_neg offer, if_neg nothing]
    simp [repeats]

/-- How many records a node was to file although their numbers were used, over some senders and
descriptors and both sides. -/
def Receiver.repeatsOver (senders descriptors : Finset String) (address : String)
    (history : List Intake) : Nat :=
  ∑ sender ∈ senders, ∑ descriptor ∈ descriptors,
    (repeats address .received sender descriptor history +
      repeats address .base sender descriptor history)

/-- A record counts once with a node that sees it and refuses it. -/
theorem Receiver.repeatsOver_concat {senders descriptors : Finset String} (address : String)
    (history : List Intake) {i : Intake} (sender : i.record.txLinkAddr ∈ senders)
    (descriptor : i.record.descriptor ∈ descriptors) :
    repeatsOver senders descriptors address (history ++ [i]) =
      repeatsOver senders descriptors address history +
        if address ∈ (Correlator.run history).audience i then
          (((Correlator.run history).nodeAt address).refusal? i.record).isSome.toNat
        else 0 := by
  have once (count : Nat) : ∑ s ∈ senders, ∑ d ∈ descriptors,
      (if s = i.record.txLinkAddr ∧ d = i.record.descriptor then count else 0) = count := by
    simp [ite_and, sender, descriptor]
  simp only [repeatsOver, repeats_concat, Finset.sum_add_distrib]
  by_cases sees : address ∈ (Correlator.run history).audience i
  · cases concern : side? address i.record with
    | none =>
      have accepted := refusal?_of_unconcerned
        (n := (Correlator.run history).nodeAt address) (r := i.record) (by simpa using concern)
      simp [accepted]
    | some side =>
      cases side with
      | received =>
        simp only [sees, true_and, once, Option.some.injEq, reduceCtorEq, and_false,
          false_and, if_false, if_true, Finset.sum_const_zero]
        omega
      | base =>
        simp only [sees, true_and, once, Option.some.injEq, reduceCtorEq, and_false,
          false_and, if_false, if_true, Finset.sum_const_zero]
        omega
  · simp [sees]

/-- The duplicates are the repetitions among what the nodes were to file. -/
theorem Correlator.duplicates_run {receivers senders descriptors : Finset String}
    {history : List Intake}
    (covered : ∀ i ∈ history, i.record.rxLinkAddr ∈ receivers ∧ i.record.txLinkAddr ∈ senders ∧
      i.record.descriptor ∈ descriptors) :
    (run history).duplicates =
      ∑ receiver ∈ receivers, Receiver.repeatsOver senders descriptors receiver history := by
  induction history using List.reverseRecOn with
  | nil => simp [Receiver.repeatsOver, Receiver.repeats, Receiver.offered, Receiver.shown,
      Record.repeats, empty]
  | append_singleton history i ih =>
    have before := ih fun old member => covered old (List.mem_append_left _ member)
    obtain ⟨receiver, sender, descriptor⟩ := covered i (by simp)
    have known : ∀ address ∈ (run history).audience i, address ∈ receivers := by
      intro address sees
      have registered : address ∈ (run (history ++ [i])).nodes.keys := by
        rw [run_concat, mem_keys_take]
        cases i with
        | received r => exact Or.inl (mem_audience_received.1 sees)
        | transmitted r => exact mem_audience_transmitted.1 sees
      obtain ⟨old, member, rfl⟩ := mem_keys_run.1 registered
      exact (covered old member).1
    have audience : (receivers.filter (· ∈ (run history).audience i)) =
        ((run history).audience i).toFinset := by
      ext address
      simpa using known address
    simp only [run_concat, duplicates_take, before,
      Receiver.repeatsOver_concat _ _ sender descriptor, Finset.sum_add_distrib,
      ← Finset.sum_filter, audience]
    rw [List.sum_toFinset _ (audience_nodup ..)]
    congr 1
    induction (run history).audience i with
    | nil => rfl
    | cons address rest ih =>
      rw [List.countP_cons, List.map_cons, List.sum_cons, ih, Nat.add_comm, toNat_eq_ite]

end RangeTest
