import Mathlib.Data.List.Induction
import RangeTest.Link.Ledger

namespace RangeTest

/-- The records whose packet number no earlier record of the list has. -/
def Record.firsts : List Record → List Record
  | [] => []
  | r :: rest => r :: (firsts rest).filter (·.packetNr != r.packetNr)

/-- How many records of a list repeat the packet number of an earlier one. -/
def Record.repeats (records : List Record) : Nat :=
  records.length - (firsts records).length

theorem Record.firsts_sublist (records : List Record) : (firsts records).Sublist records := by
  induction records with
  | nil => exact .slnil
  | cons r rest ih => exact (List.filter_sublist.trans ih).cons_cons r

theorem Record.length_firsts_add_repeats (records : List Record) :
    (firsts records).length + repeats records = records.length := by
  have bound := (firsts_sublist records).length_le
  unfold repeats
  omega

/-- One more record is kept if its packet number is new. -/
theorem Record.firsts_concat (records : List Record) (r : Record) :
    firsts (records ++ [r]) =
      if r.packetNr ∈ records.map (·.packetNr) then firsts records else firsts records ++ [r] := by
  induction records with
  | nil => rfl
  | cons head rest ih =>
    by_cases later : r.packetNr ∈ rest.map (·.packetNr)
    · have used : r.packetNr ∈ (head :: rest).map (·.packetNr) := List.mem_cons_of_mem _ later
      rw [if_pos later] at ih
      rw [if_pos used, List.cons_append, firsts, ih, firsts]
    · rw [if_neg later] at ih
      rw [List.cons_append, firsts, ih, firsts, List.filter_append]
      by_cases same : r.packetNr = head.packetNr
      · have used : r.packetNr ∈ (head :: rest).map (·.packetNr) := same ▸ List.mem_cons_self ..
        rw [if_pos used]
        simp [same]
      · have free : r.packetNr ∉ (head :: rest).map (·.packetNr) :=
          fun member => (List.mem_cons.1 member).elim same later
        rw [if_neg free]
        simp [same]

/-- The records kept are kept whatever comes after them. -/
theorem Record.firsts_prefix_append (records more : List Record) :
    firsts records <+: firsts (records ++ more) := by
  induction more using List.reverseRecOn with
  | nil => simp
  | append_singleton more r ih =>
    rw [← List.append_assoc, firsts_concat]
    split
    · exact ih
    · exact ih.trans (List.prefix_append _ _)

theorem Record.repeats_concat (records : List Record) (r : Record) :
    repeats (records ++ [r]) =
      repeats records + if r.packetNr ∈ records.map (·.packetNr) then 1 else 0 := by
  have before := length_firsts_add_repeats records
  have after := length_firsts_add_repeats (records ++ [r])
  rw [firsts_concat, List.length_append, List.length_singleton] at after
  split at after
  · rename_i used
    rw [if_pos used]
    omega
  · rename_i free
    rw [List.length_append, List.length_singleton] at after
    rw [if_neg free]
    omega

/-- The bucket in which records were filed one after the other. -/
def Bucket.ofRecords (records : List Record) : Bucket :=
  records.foldl (fun bucket r => (bucket.add r).2) .empty

@[simp] theorem Bucket.ofRecords_concat (records : List Record) (r : Record) :
    ofRecords (records ++ [r]) = ((ofRecords records).add r).2 := by
  simp [ofRecords]

/-- The numbers that a bucket holds are those of all records offered, filed or not. -/
theorem Bucket.mem_numbers_ofRecords {records : List Record} {number : UInt32} :
    number ∈ (ofRecords records).numbers ↔ number ∈ records.map (·.packetNr) := by
  induction records using List.reverseRecOn with
  | nil => rfl
  | append_singleton records r ih =>
    rw [ofRecords_concat, add, List.map_append, List.mem_append, ← ih]
    by_cases used : r.packetNr ∈ (ofRecords records).numbers
    · simp only [List.contains_iff_mem, used, if_true, List.map_cons, List.map_nil,
        List.mem_singleton]
      exact ⟨Or.inl, fun either => either.elim id fun same => same ▸ used⟩
    · simp [used, or_comm]

/-- A bucket refuses exactly the packet numbers that were offered before. -/
theorem Bucket.add_ofRecords (records : List Record) (r : Record) :
    ((ofRecords records).add r).1 = !decide (r.packetNr ∈ records.map (·.packetNr)) := by
  by_cases used : r.packetNr ∈ (ofRecords records).numbers
  · simp [add, used, mem_numbers_ofRecords.1 used]
  · have free := mt mem_numbers_ofRecords.2 used
    simp [add, used, free]

/-- A bucket keeps the first record of every packet number. -/
theorem Bucket.packets_ofRecords (records : List Record) :
    (ofRecords records).packets = Record.firsts records := by
  induction records using List.reverseRecOn with
  | nil => rfl
  | append_singleton records r ih =>
    rw [ofRecords_concat, Record.firsts_concat, add, ← ih]
    by_cases used : r.packetNr ∈ (ofRecords records).numbers
    · simp [used, mem_numbers_ofRecords.1 used]
    · have free := mt mem_numbers_ofRecords.2 used
      simp only [List.contains_iff_mem, used, free, if_false]

/-- The ledger in which records were filed one after the other. -/
def Ledger.ofRecords (records : List Record) : Ledger :=
  records.foldl (fun ledger r => (ledger.add r).2) .empty

@[simp] theorem Ledger.ofRecords_concat (records : List Record) (r : Record) :
    ofRecords (records ++ [r]) = ((ofRecords records).add r).2 := by
  simp [ofRecords]

/-- Each bucket of a ledger comes from the records with its descriptor alone. -/
theorem Ledger.bucket_ofRecords (records : List Record) (descriptor : String) :
    (ofRecords records).bucket descriptor =
      .ofRecords (records.filter (·.descriptor == descriptor)) := by
  induction records using List.reverseRecOn with
  | nil => rfl
  | append_singleton records r ih =>
    rw [ofRecords_concat, bucket_add, ih, List.filter_append]
    by_cases same : descriptor = r.descriptor
    · simp [same]
    · have other : ¬ r.descriptor = descriptor := fun h => same h.symm
      simp [same, other]

theorem Ledger.packets_ofRecords (records : List Record) (descriptor : String) :
    (ofRecords records).packets descriptor =
      Record.firsts (records.filter (·.descriptor == descriptor)) := by
  rw [packets, bucket_ofRecords, Bucket.packets_ofRecords]

/-- A ledger refuses exactly the packet numbers that were offered before with the descriptor. -/
theorem Ledger.add_ofRecords (records : List Record) (r : Record) :
    ((ofRecords records).add r).1 =
      !decide (r.packetNr ∈
        (records.filter (·.descriptor == r.descriptor)).map (·.packetNr)) := by
  rw [add_fst, bucket_ofRecords, Bucket.add_ofRecords]

end RangeTest
