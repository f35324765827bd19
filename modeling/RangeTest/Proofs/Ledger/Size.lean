import Mathlib.Algebra.Ring.Nat
import RangeTest.Receiver

namespace RangeTest

/-- Putting a value under a key changes a sum over all values by the new value less the old one. -/
theorem Directory.sum_put (f : α → Nat) (d : Directory α) (key : String) (value : α) :
    ((d.put key value).values.map f).sum + ((d.get? key).map f).getD 0 =
      (d.values.map f).sum + f value := by
  obtain ⟨entries, ascending⟩ := d
  simp only [put, get?, values]
  induction entries with
  | nil => simp [putEntry]
  | cons head rest ih =>
    obtain ⟨least, tail⟩ := List.pairwise_cons.1 ascending
    unfold putEntry
    split
    · rename_i before
      have absent : (head :: rest).find? (·.1 == key) = none := by
        simp only [List.find?_eq_none, List.mem_cons, beq_iff_eq]
        rintro entry (rfl | later) rfl
        · exact String.lt_irrefl _ before
        · exact String.lt_irrefl _ (String.lt_trans before (least entry later))
      simp [absent]
      omega
    · split
      · rename_i after
        have other : head.1 ≠ key := fun same => String.lt_irrefl key (by simp_all)
        have ofRest := ih tail
        simp only [List.map_cons, List.sum_cons, List.find?_cons, beq_eq_false_iff_ne.2 other]
        omega
      · rename_i notBefore notAfter
        have here : head.1 = key := String.le_antisymm notBefore notAfter
        simp [here]
        omega

def Ledger.size (l : Ledger) : Nat :=
  (l.buckets.map (·.2.packets.length)).sum

def Link.size (l : Link) : Nat :=
  l.received.size + l.base.size

def Receiver.size (n : Receiver) : Nat :=
  (n.links.values.map Link.size).sum

@[simp] theorem Receiver.size_new (address : String) : (new address).size = 0 :=
  rfl

theorem Bucket.length_packets_add (b : Bucket) (r : Record) :
    (b.add r).2.packets.length = b.packets.length + (b.add r).1.toNat := by
  by_cases used : r.packetNr ∈ b.numbers <;> simp [add, used]

/-- Filing a packet adds it to the ledger once, refusing it does not. -/
theorem Ledger.size_add (l : Ledger) (r : Record) :
    (l.add r).2.size = l.size + (l.add r).1.toNat := by
  obtain ⟨buckets⟩ := l
  induction buckets with
  | nil => simp [add, file, size, Bucket.length_packets_add, Bucket.empty]
  | cons entry rest ih =>
    obtain ⟨descriptor, b⟩ := entry
    by_cases here : descriptor = r.descriptor
    · have grown := b.length_packets_add r
      simp only [add, file, here, if_true, size, List.map_cons, List.sum_cons]
      omega
    · simp only [add, size] at ih
      simp only [add, file, here, if_false, size, List.map_cons, List.sum_cons]
      omega

/-- Counting descriptor by descriptor counts every packet. -/
theorem Ledger.sum_count {l : Ledger} (distinct : l.descriptors.Nodup) :
    (l.descriptors.map l.count).sum = l.size := by
  have counted (entry : String × Bucket) (member : entry ∈ l.buckets) :
      l.count entry.1 = entry.2.packets.length := by
    obtain ⟨buckets⟩ := l
    simp only [count, packets, bucket, bucket?]
    induction buckets with
    | nil => simp at member
    | cons head rest ih =>
      obtain ⟨first, tail⟩ := List.nodup_cons.1 distinct
      rcases List.mem_cons.1 member with rfl | later
      · simp
      · have other : head.1 ≠ entry.1 :=
          fun same => first (List.mem_map.2 ⟨entry, later, same.symm⟩)
        simpa [other] using ih tail later
  rw [descriptors, List.map_map, size]
  exact congrArg List.sum (List.map_congr_left counted)

theorem Link.size_setLedger (l : Link) (ledger : Ledger) (side : Side) :
    (l.setLedger ledger side).size + (l.ledger side).size = l.size + ledger.size := by
  cases side with
  | received => simp only [setLedger, Link.ledger, size]; omega
  | base => simp only [setLedger, Link.ledger, size]; omega

/-- A record that concerns a node is filed there or refused. -/
theorem Receiver.size_after (n : Receiver) (r : Record) :
    (n.after r).size + (n.refusal? r).isSome.toNat =
      n.size + (side? n.address r).isSome.toNat := by
  cases concern : side? n.address r with
  | none => simp [after_of_unconcerned concern, refusal?_of_unconcerned concern]
  | some side =>
    have put := Directory.sum_put Link.size n.links r.txLinkAddr
      ((n.link r.txLinkAddr).add side r).2
    have old : ((n.links.get? r.txLinkAddr).map Link.size).getD 0 =
        (n.link r.txLinkAddr).size := by
      cases found : n.links.get? r.txLinkAddr with
      | none => simp [link, found, Link.empty, Link.size, Ledger.size, Ledger.empty]
      | some l => simp [link, found]
    have changed := (n.link r.txLinkAddr).size_setLedger
      (((n.link r.txLinkAddr).ledger side).add r).2 side
    have grown := ((n.link r.txLinkAddr).ledger side).size_add r
    have refused : (n.refusal? r).isSome.toNat +
        (((n.link r.txLinkAddr).ledger side).add r).1.toNat = 1 := by
      rw [isSome_refusal?_of_concerned concern]
      cases (((n.link r.txLinkAddr).ledger side).add r).1 <;> rfl
    rw [old] at put
    rw [after_of_concerned concern]
    simp only [Link.add, size, Option.isSome_some, Bool.toNat_true] at put ⊢
    omega

end RangeTest
