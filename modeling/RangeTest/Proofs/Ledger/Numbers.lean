import Mathlib.Data.Finset.Card
import RangeTest.Proofs.Ledger.Firsts

namespace RangeTest

/-- The packet numbers of records. -/
def Record.numbers (records : List Record) : Finset UInt32 :=
  (records.map (·.packetNr)).toFinset

@[simp] theorem Record.mem_numbers {records : List Record} {number : UInt32} :
    number ∈ numbers records ↔ ∃ r ∈ records, r.packetNr = number := by
  simp [numbers]

@[simp] theorem Record.numbers_append (before after : List Record) :
    numbers (before ++ after) = numbers before ∪ numbers after := by
  simp [numbers]

theorem Record.numbers_eq_empty_iff {records : List Record} : numbers records = ∅ ↔ records = [] := by
  rw [numbers, List.toFinset_eq_empty_iff, List.map_eq_nil_iff]

theorem Record.numbers_perm {records others : List Record} (perm : records.Perm others) :
    numbers records = numbers others :=
  List.toFinset_eq_of_perm _ _ (perm.map _)

theorem Record.card_numbers {records : List Record}
    (distinct : (records.map (·.packetNr)).Nodup) : (numbers records).card = records.length := by
  rw [numbers, List.toFinset_card_of_nodup distinct, List.length_map]

/-- The record kept of a packet number is the first one that has it. -/
theorem Record.mem_firsts_iff {records : List Record} {r : Record} :
    r ∈ firsts records ↔ (records.filter (·.packetNr == r.packetNr)).head? = some r := by
  induction records with
  | nil => simp [firsts]
  | cons head rest ih =>
    rw [firsts, List.mem_cons, List.mem_filter, ih]
    by_cases same : head.packetNr = r.packetNr
    · simp [same, eq_comm]
    · have other : r ≠ head := fun equal => same (equal ▸ rfl)
      simp [same, other, Ne.symm same]

theorem Record.firsts_distinct (records : List Record) :
    ((firsts records).map (·.packetNr)).Nodup := by
  induction records with
  | nil => exact .nil
  | cons head rest ih =>
    rw [firsts, List.map_cons, List.nodup_cons]
    exact ⟨by simp, ih.sublist (List.filter_sublist.map _)⟩

theorem Record.numbers_mono {some all : List Record} (part : some ⊆ all) :
    numbers some ⊆ numbers all := by
  intro number member
  obtain ⟨r, inPart, same⟩ := mem_numbers.1 member
  exact mem_numbers.2 ⟨r, part inPart, same⟩

@[simp] theorem Record.numbers_firsts (records : List Record) :
    numbers (firsts records) = numbers records := by
  refine Finset.Subset.antisymm (numbers_mono (firsts_sublist records).subset) ?_
  intro number member
  obtain ⟨r, logged, rfl⟩ := mem_numbers.1 member
  have found : records.filter (·.packetNr == r.packetNr) ≠ [] :=
    List.ne_nil_of_mem (List.mem_filter.2 ⟨logged, beq_self_eq_true _⟩)
  obtain ⟨first, head⟩ := Option.isSome_iff_exists.1 (List.isSome_head?.2 found)
  have same : first.packetNr = r.packetNr := by
    simpa using (List.mem_filter.1 (List.mem_of_mem_head? head)).2
  exact mem_numbers.2 ⟨first, mem_firsts_iff.2 (same ▸ head), same⟩

theorem Record.length_firsts (records : List Record) :
    (firsts records).length = (numbers records).card := by
  rw [← numbers_firsts, card_numbers (firsts_distinct records)]

/-- How many records repeat a number does not depend on the order of the records. -/
theorem Record.repeats_perm {records others : List Record} (perm : records.Perm others) :
    repeats records = repeats others := by
  rw [repeats, repeats, length_firsts, length_firsts, perm.length_eq, numbers_perm perm]

/-- Which records are kept does not depend on the order of records with different numbers. -/
theorem Record.firsts_perm {records others : List Record}
    (stable : ∀ number, records.filter (·.packetNr == number) =
      others.filter (·.packetNr == number)) : (firsts records).Perm (firsts others) := by
  refine (List.perm_ext_iff_of_nodup (.of_map _ (firsts_distinct _))
    (.of_map _ (firsts_distinct _))).2 fun r => ?_
  rw [mem_firsts_iff, mem_firsts_iff, stable]

end RangeTest
