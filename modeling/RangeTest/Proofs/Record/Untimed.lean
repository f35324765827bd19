import RangeTest.Proofs.Lockstep
import RangeTest.Proofs.Text.Cut
import RangeTest.Record.Reader

namespace RangeTest

/-- The record without its capture time. -/
def Record.untimed (r : Record) : Record :=
  { r with capturedAt := none }

/-- Two readings of lines that are the same but for the capture time. -/
inductive LineReading.Alike : LineReading → LineReading → Prop
  | matched {r other : Record} : r.untimed = other.untimed → Alike (.matched r) (.matched other)
  | skipped : Alike .skipped .skipped
  | malformed (fault : RecordFault) : Alike (.malformed fault) (.malformed fault)

theorem LineReading.Alike.refl (reading : LineReading) : reading.Alike reading := by
  cases reading with
  | matched r => exact .matched rfl
  | skipped => exact .skipped
  | malformed fault => exact .malformed fault

theorem FieldReader.map_untimed_record (capturedAt : Option Moment) :
    Record.untimed <$> record capturedAt = record none := by
  simp only [record, map_bind, map_pure, Record.untimed]

theorem Record.map_untimed_ofPayload (capturedAt : Option Moment) (payload : List Char) :
    (ofPayload capturedAt payload).map untimed = ofPayload none payload := by
  rw [ofPayload, ofPayload]
  split
  · rfl
  · rw [← FieldReader.map_untimed_record capturedAt, StateT.run'_eq, StateT.run'_eq,
      StateT.run_map]
    cases (FieldReader.record capturedAt).run (foldSurplus (Text.fields payload)) <;> rfl

/-- What is read in a tagged line does not depend on the text in front of the tag but for the
capture time. -/
theorem Record.ofLine_alike {tag : String} {lead other rest : List Char}
    (first : Text.FirstMark tag.toList lead rest)
    (firstOther : Text.FirstMark tag.toList other rest) :
    (ofLine tag (.ofList (lead ++ tag.toList ++ rest))).Alike
      (ofLine tag (.ofList (other ++ tag.toList ++ rest))) := by
  rw [ofLine, ofLine, String.toList_ofList, String.toList_ofList, Text.cut?_trimEnd first,
    Text.cut?_trimEnd firstOther]
  by_cases marked : tag.toList.length ≤ (Text.trimEnd (tag.toList ++ rest)).length
  · rw [if_pos marked, if_pos marked]
    generalize (Text.trimEnd (tag.toList ++ rest)).drop tag.toList.length = payload
    have same := Except.alike_of_map_eq ((map_untimed_ofPayload (captureTime? lead) payload).trans
      (map_untimed_ofPayload (captureTime? other) payload).symm)
    dsimp only
    generalize ofPayload (captureTime? lead) payload = result at same ⊢
    generalize ofPayload (captureTime? other) payload = otherResult at same ⊢
    cases same with
    | error fault => exact .malformed fault
    | ok same => exact .matched same
  · rw [if_neg marked, if_neg marked]
    exact .skipped

end RangeTest
