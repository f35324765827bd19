import RangeTest.Proofs.Record.RoundTrip

namespace RangeTest

/-- What a line is whose text after the tag is split into pieces. -/
inductive LineReading.Grammar (lead : List Char) (pieces : List (List Char)) : LineReading → Prop
  | short : pieces.length < Column.all.length →
      Grammar lead pieces (.malformed (.fieldCount pieces.length))
  | matched {row : List (List Char)} {r : Record} : Record.Folded pieces row →
      r.SpelledBy Column.all row → r.capturedAt = Record.captureTime? lead →
      Grammar lead pieces (.matched r)
  | malformed {row : List (List Char)} {fault : RecordFault} : Record.Folded pieces row →
      Column.Blames Column.all row fault → Grammar lead pieces (.malformed fault)

section
variable {lead : List Char} {pieces row : List (List Char)}

theorem Record.Folded.unique {other : List (List Char)} (first : Folded pieces row)
    (second : Folded pieces other) : row = other :=
  first.foldSurplus_eq.symm.trans second.foldSurplus_eq

theorem Record.folded_foldSurplus (enough : Column.all.length ≤ pieces.length) :
    Folded pieces (foldSurplus pieces) := by
  have columns : Column.all.length = Column.all.tail.length + 1 := rfl
  have nonempty : pieces.take (pieces.length - Column.all.length + 1) ≠ [] := by
    refine List.ne_nil_of_length_pos ?_
    rw [List.length_take]
    omega
  have width : (pieces.drop (pieces.length - Column.all.length + 1)).length =
      Column.all.tail.length := by
    rw [List.length_drop]
    omega
  have folded := Folded.intro nonempty width
  rwa [List.take_append_drop] at folded

theorem Record.Folded.length_eq (folded : Folded pieces row) : row.length = Column.all.length := by
  cases folded with
  | intro _ width => rw [List.length_cons, width]; rfl

/-- The grammar says one thing of a line. -/
theorem LineReading.Grammar.unique {first second : LineReading} (one : Grammar lead pieces first)
    (two : Grammar lead pieces second) : first = second := by
  cases one with
  | short few =>
    cases two with
    | short => rfl
    | matched folded => exact absurd few folded.enough
    | malformed folded => exact absurd few folded.enough
  | matched folded spelled captured =>
    cases two with
    | short few => exact absurd few folded.enough
    | matched again other later =>
      obtain rfl := folded.unique again
      rw [Record.ext_value (captured.trans later.symm) (spelled.value_eq other)]
    | malformed again blamed =>
      obtain rfl := folded.unique again
      exact absurd blamed spelled.not_blames
  | malformed folded blamed =>
    cases two with
    | short few => exact absurd few folded.enough
    | matched again spelled =>
      obtain rfl := folded.unique again
      exact absurd blamed spelled.not_blames
    | malformed again other =>
      obtain rfl := folded.unique again
      rw [blamed.unique other]

end

/-- What stands behind a tag is read as the grammar says. -/
theorem Record.ofPayload_grammar (lead payload : List Char) :
    LineReading.Grammar lead (Text.fields payload)
      (match ofPayload (captureTime? lead) payload with
        | .ok record => .matched record
        | .error fault => .malformed fault) := by
  by_cases few : (Text.fields payload).length < Column.all.length
  · rw [ofPayload, if_pos few]
    exact .short few
  · rw [ofPayload, if_neg few, StateT.run'_eq]
    have folded := folded_foldSurplus (Nat.not_lt.1 few)
    rcases FieldReader.record_decides (captureTime? lead) _ folded.length_eq with
      ⟨r, read, spelled, captured⟩ | ⟨fault, read, blamed⟩
    · rw [read]
      exact .matched folded spelled captured
    · rw [read]
      exact .malformed folded blamed

/-- A line that holds the tag when it is trimmed is what the grammar says of the pieces into which
the text after the first tag is split, and nothing else. -/
theorem Record.ofLine_eq_iff_grammar {tag line : String}
    (tagged : tag.toList <:+: Text.trimEnd line.toList) :
    ∃ lead rest pieces, Text.trimEnd line.toList = lead ++ tag.toList ++ rest ∧
      Text.FirstMark tag.toList lead rest ∧ Text.Split rest pieces ∧
      ∀ reading, ofLine tag line = reading ↔ LineReading.Grammar lead pieces reading := by
  obtain ⟨⟨lead, rest⟩, cut⟩ := Option.isSome_iff_exists.1 (Text.cut?_isSome tagged)
  refine ⟨lead, rest, Text.fields rest, Text.eq_append_of_cut? cut, Text.firstMark_of_cut? cut,
    Text.split_iff.2 rfl, fun reading => ?_⟩
  have read : LineReading.Grammar lead (Text.fields rest) (ofLine tag line) := by
    rw [ofLine, cut]
    exact ofPayload_grammar lead rest
  refine ⟨?_, read.unique⟩
  rintro rfl
  exact read

/-- A line with a separator in its descriptor, zeros in front of a number, a plus, and two numbers
that are bad. -/
def Record.overflowing : String :=
  "rx csv-log: GFSK, slow, 007, 8, +3, -0, 4294967296, 14, x, 868, 2, 868, 50, 50, 100, 8, AA, " ++
    "0x8005, FFFF, 7E, 0, 0, 16, 25, 4, A, B\r\n"

/-- The number left of the other bad one is named. -/
theorem Record.ofLine_eq_iff_grammar_overflowing :
    "csv-log: ".toList <:+: Text.trimEnd overflowing.toList ∧
    ∃ lead rest pieces, Text.trimEnd overflowing.toList = lead ++ "csv-log: ".toList ++ rest ∧
      Text.FirstMark "csv-log: ".toList lead rest ∧ Text.Split rest pieces ∧
      LineReading.Grammar lead pieces (.malformed (.invalidNumber .lqi "4294967296")) := by
  have tagged : "csv-log: ".toList <:+: Text.trimEnd overflowing.toList := by
    decide +kernel
  have read : ofLine "csv-log: " overflowing = .malformed (.invalidNumber .lqi "4294967296") := by
    decide +kernel
  obtain ⟨lead, rest, pieces, split, first, parted, readings⟩ := ofLine_eq_iff_grammar tagged
  exact ⟨tagged, lead, rest, pieces, split, first, parted, (readings _).1 read⟩

end RangeTest
