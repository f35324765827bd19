import RangeTest.Export.Row
import RangeTest.Proofs.Csv.Writing

namespace RangeTest

/-- What an action comes to that is to deliver a text to a sink of limited capacity. It succeeds if
and only if there is room for the text; then the sink holds the text, and otherwise a part of it,
from the first byte on. -/
structure Sink.Delivers (capacity : Nat) (act : Act Sink ε Unit) (text : String) : Prop where
  succeeds_iff : (Act.from act (.ofCapacity (some capacity))).1 = .ok () ↔
    text.utf8ByteSize ≤ capacity
  whole : (Act.from act (.ofCapacity (some capacity))).1 = .ok () →
    (Act.from act (.ofCapacity (some capacity))).2.delivered = text.toUTF8
  part : (Act.from act (.ofCapacity (some capacity))).1 ≠ .ok () →
    (Act.from act (.ofCapacity (some capacity))).2.bytes <+: text.toUTF8.data.toList

theorem Sink.Writes.delivers {act : Act Sink ε Unit} {text : String} (writes : Writes act text)
    (capacity : Nat) : Delivers capacity act text := by
  have limit {size : Nat} : (ofCapacity (some capacity)).fits size ↔ size ≤ capacity := by
    simp [ofCapacity, fits]
  have ends := writes (.ofCapacity (some capacity)) (limit.2 (Nat.zero_le _))
  have nothing : (ofCapacity (some capacity)).bytes = [] := rfl
  generalize reached : Act.from act (.ofCapacity (some capacity)) = result at ends
  cases ends with
  | written _ room whole =>
    rename_i after value
    rw [nothing, List.nil_append, ← Text.data_toUTF8] at whole
    refine ⟨?_, ?_, ?_⟩
    · rw [reached]
      exact iff_of_true rfl (limit.1 room)
    · rw [reached]
      exact fun _ => ByteArray.ext (Array.ext' whole)
    · rw [reached]
      exact fun failed => absurd rfl failed
  | full beyond delivered =>
    rw [nothing, List.nil_append, ← Text.data_toUTF8] at delivered
    refine ⟨?_, ?_, ?_⟩
    · rw [reached]
      exact iff_of_false (by simp) (mt limit.2 beyond)
    · rw [reached]
      intro written
      cases written
    · rw [reached]
      exact fun _ => delivered

/-- No output that is cut short passes for a success. To whatever capacity a sink is limited, and in
whatever fragments a text is written, the writing succeeds if and only if there is room for the whole
text, and the sink then holds all of it; otherwise it holds a part of it, from the first byte on. So
it is with the report, with the summary and with every table of 41 columns. -/
theorem Sink.delivers_or_fails (capacity : Nat) :
    (∀ fragments, Delivers capacity (writeAll fragments) (String.join fragments)) ∧
    (∀ title links, Delivers capacity (Report.write title links) (Report.text title links)) ∧
    (∀ rxLog txLog a,
      Delivers capacity (Summary.write rxLog txLog a) (Summary.text rxLog txLog a)) ∧
    ∀ rows : List Row, (∀ row ∈ rows, row.length = 41) →
      Delivers capacity (Csv.write Row.header rows) (Csv.text (Row.header :: rows)) :=
  ⟨fun fragments => (writeAll_writes fragments).delivers capacity,
    fun title links => (Report.write_writes title links).delivers capacity,
    fun rxLog txLog a => (Summary.write_writes rxLog txLog a).delivers capacity,
    fun _ even => (Csv.write_writes even).delivers capacity⟩

/-- The last byte decides on a table whose cells have to be quoted. -/
theorem Sink.delivers_or_fails_brim :
    (∀ row ∈ [List.replicate 41 "a, b"], row.length = 41) ∧
    (Act.from (Csv.write Row.header [List.replicate 41 "a, b"]) (.ofCapacity (some 794))).1 = .ok () ∧
    (Act.from (Csv.write Row.header [List.replicate 41 "a, b"]) (.ofCapacity (some 793))).1 ≠
      .ok () := by
  have even : ∀ row ∈ [List.replicate 41 "a, b"], row.length = 41 :=
    List.forall_mem_singleton.2 List.length_replicate
  have size : (Csv.text [Row.header, List.replicate 41 "a, b"]).utf8ByteSize = 794 := by
    rw [← Text.length_encode, Csv.text, String.toList_ofList]
    decide +kernel
  obtain ⟨_, _, _, enough⟩ := delivers_or_fails 794
  obtain ⟨_, _, _, short⟩ := delivers_or_fails 793
  refine ⟨even, (enough _ even).succeeds_iff.2 (Nat.le_of_eq size), fun written => ?_⟩
  have fits := (short _ even).succeeds_iff.1 written
  rw [size] at fits
  exact absurd fits (by decide)

end RangeTest
