import Mathlib.Data.Finset.Card
import Mathlib.Order.Interval.Finset.Nat
import RangeTest.Record

namespace RangeTest

/-- Whether the number of a packet lies between those of two others or is one of them. -/
def Record.between (first last r : Record) : Bool :=
  first.packetNr ≤ r.packetNr && r.packetNr ≤ last.packetNr

/-- How many packet numbers there are from that of one packet to that of another one. -/
def Record.span (first last : Record) : Nat :=
  last.packetNr.toNat - first.packetNr.toNat + 1

/-- The packet numbers from that of one packet to that of another one which none of the records
has. -/
def Record.unused (records : List Record) (first last : Record) : Finset Nat :=
  (Finset.Icc first.packetNr.toNat last.packetNr.toNat).filter
    (· ∉ records.map (·.packetNr.toNat))

theorem Record.between_iff {first last r : Record} :
    between first last r ↔
      r.packetNr.toNat ∈ Finset.Icc first.packetNr.toNat last.packetNr.toNat := by
  rw [between, Bool.and_eq_true, decide_eq_true_iff, decide_eq_true_iff, Finset.mem_Icc,
    UInt32.le_iff_toNat_le, UInt32.le_iff_toNat_le]

theorem Record.numbers_nodup {records : List Record}
    (distinct : (records.map (·.packetNr)).Nodup) : (records.map (·.packetNr.toNat)).Nodup := by
  have images := distinct.map (f := UInt32.toNat) fun _ _ same => UInt32.toNat_inj.1 same
  rwa [List.map_map] at images

/-- Every number of a span is unused or that of one packet. -/
theorem Record.length_between_add_unused {records : List Record} {first last : Record}
    (distinct : (records.map (·.packetNr)).Nodup) (ordered : first.packetNr ≤ last.packetNr) :
    (records.filter (between first last)).length + (unused records first last).card =
      span first last := by
  have inside : (records.filter (between first last)).length =
      ((Finset.Icc first.packetNr.toNat last.packetNr.toNat).filter
        (· ∈ records.map (·.packetNr.toNat))).card := by
    have kept := (numbers_nodup distinct).sublist
      ((List.filter_sublist (p := between first last)).map (·.packetNr.toNat))
    rw [← List.length_map (·.packetNr.toNat), ← List.toFinset_card_of_nodup kept]
    congr 1
    ext number
    simp only [List.mem_toFinset, List.mem_map, List.mem_filter, Finset.mem_filter, between_iff]
    constructor
    · rintro ⟨r, ⟨member, inSpan⟩, rfl⟩
      exact ⟨inSpan, r, member, rfl⟩
    · rintro ⟨inSpan, r, member, rfl⟩
      exact ⟨r, ⟨member, inSpan⟩, rfl⟩
  have bounds := UInt32.le_iff_toNat_le.1 ordered
  have total := Finset.card_filter_add_card_filter_not (s := Finset.Icc first.packetNr.toNat
    last.packetNr.toNat) (· ∈ records.map (·.packetNr.toNat))
  rw [Nat.card_Icc] at total
  rw [inside, unused, total, span]
  omega

/-- Packets with distinct numbers within a span are no more than its numbers, whatever their
order. -/
theorem Record.length_le_span {records : List Record} {first last : Record}
    (distinct : (records.map (·.packetNr)).Nodup) (ordered : first.packetNr ≤ last.packetNr)
    (inside : ∀ r ∈ records, between first last r) : records.length ≤ span first last := by
  have numbers := length_between_add_unused distinct ordered
  rw [List.filter_eq_self.2 inside] at numbers
  omega

theorem Record.span_pos (first last : Record) : 0 < span first last :=
  Nat.succ_pos _

theorem Record.span_le (first last : Record) : span first last ≤ 2 ^ 32 := by
  have bound := last.packetNr.toNat_lt
  unfold span
  omega

end RangeTest
