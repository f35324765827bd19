import RangeTest.Proofs.Text.Cut
import RangeTest.Proofs.Text.Fields
import RangeTest.Survey.Row

namespace RangeTest

/-- A row is part of a text. The line that has its number holds the tag, apart from blanks at the
end of the line, and what follows the first tag is split into its fields. -/
inductive SurveyRow.StandsIn (tag content : String) (row : SurveyRow) : Prop
  | intro {line lead rest : List Char} : 0 < row.line →
      (Text.lines content.toList)[row.line - 1]? = some line →
      Text.trimEnd line = lead ++ tag.toList ++ rest → Text.FirstMark tag.toList lead rest →
      Text.Split rest row.fields → StandsIn tag content row

/-- The rows of a text from top to bottom. -/
structure SurveyRow.Lists (tag content : String) (rows : List SurveyRow) : Prop where
  mem_iff (row : SurveyRow) : row ∈ rows ↔ row.StandsIn tag content
  ordered : rows.Pairwise (·.line < ·.line)

/-- The lines of a text that hold the tag, without the blanks at their ends. -/
def SurveyRow.taggedLines (tag content : String) : List (List Char) :=
  ((Text.lines content.toList).map Text.trimEnd).filter (tag.toList <:+: ·)

/-- The fields behind the first tag of a line without blanks at its end. -/
def SurveyRow.fieldsBehind (tag : String) (line : List Char) : List (List Char) :=
  Text.fields (((Text.cut? tag.toList line).map (·.2)).getD [])

section
variable {tag content : String}

theorem SurveyRow.fields?_eq_some_iff {line : List Char} {fields : List (List Char)} :
    fields? tag line = some fields ↔
      ∃ lead rest, Text.trimEnd line = lead ++ tag.toList ++ rest ∧
        Text.FirstMark tag.toList lead rest ∧ Text.Split rest fields := by
  rw [fields?, Option.map_eq_some_iff]
  constructor
  · rintro ⟨⟨lead, rest⟩, cut, split⟩
    exact ⟨lead, rest, Text.eq_append_of_cut? cut, Text.firstMark_of_cut? cut,
      Text.split_iff.2 split⟩
  · rintro ⟨lead, rest, whole, first, split⟩
    exact ⟨(lead, rest), by rw [whole, Text.cut?_append first], Text.split_iff.1 split⟩

theorem SurveyRow.fields?_eq_ite (line : List Char) : fields? tag line =
    if tag.toList <:+: Text.trimEnd line then some (fieldsBehind tag (Text.trimEnd line))
    else none := by
  rw [fields?, fieldsBehind]
  split
  · rename_i tagged
    obtain ⟨parts, cut⟩ := Option.isSome_iff_exists.1 (Text.cut?_isSome tagged)
    rw [cut]
    rfl
  · rename_i untagged
    rw [Text.cut?_eq_none_iff.2 untagged]
    rfl

theorem SurveyRow.mem_tagged_iff {row : SurveyRow} :
    row ∈ tagged tag content ↔ row.StandsIn tag content := by
  rw [tagged, List.mem_filterMap]
  constructor
  · rintro ⟨⟨line, index⟩, numbered, told⟩
    obtain ⟨fields, split, rfl⟩ := Option.map_eq_some_iff.1 told
    obtain ⟨lead, rest, whole, first, parted⟩ := fields?_eq_some_iff.1 split
    exact .intro (Nat.succ_pos index) (List.mem_zipIdx_iff_getElem?.1 numbered) whole first parted
  · rintro ⟨positive, at', whole, first, parted⟩
    refine ⟨(_, row.line - 1), List.mem_zipIdx_iff_getElem?.2 at', ?_⟩
    dsimp only
    rw [fields?_eq_some_iff.2 ⟨_, _, whole, first, parted⟩, Option.map_some,
      Nat.sub_add_cancel positive]

/-- The rows are found from top to bottom, each once. -/
theorem SurveyRow.lists_tagged (tag content : String) :
    Lists tag content (tagged tag content) where
  mem_iff _ := mem_tagged_iff
  ordered := by
    have numbered : (Text.lines content.toList).zipIdx.Pairwise (·.2 < ·.2) := by
      rw [← List.pairwise_map (f := Prod.snd), List.zipIdx_map_snd]
      exact List.pairwise_lt_range'
    refine numbered.filterMap _ ?_
    rintro ⟨line, i⟩ ⟨line', j⟩ before row told row' told'
    obtain ⟨_, _, rfl⟩ := Option.map_eq_some_iff.1 told
    obtain ⟨_, _, rfl⟩ := Option.map_eq_some_iff.1 told'
    exact Nat.succ_lt_succ before

/-- There is one row for each line with the tag. -/
theorem SurveyRow.fields_tagged (tag content : String) :
    (tagged tag content).map (·.fields) = (taggedLines tag content).map (fieldsBehind tag) := by
  have byLine : (tagged tag content).map (·.fields) =
      (Text.lines content.toList).filterMap (fields? tag) := by
    rw [tagged, List.map_filterMap]
    conv_rhs => rw [← List.zipIdx_map_fst 0 (Text.lines content.toList), List.filterMap_map]
    refine List.filterMap_congr fun numbered _ => ?_
    rw [Option.map_map]
    exact Option.map_id'
  rw [byLine, taggedLines]
  induction Text.lines content.toList with
  | nil => rfl
  | cons line lines ih =>
    rw [List.filterMap_cons, fields?_eq_ite, List.map_cons, List.filter_cons]
    by_cases tagged : tag.toList <:+: Text.trimEnd line <;> simp [tagged, ih]

theorem SurveyRow.fieldsBehind_append {lead : List Char} {pieces : List (List Char)}
    (first : Text.FirstMark tag.toList lead []) (nonempty : pieces ≠ [])
    (free : ∀ piece ∈ pieces, ¬ Text.separator <:+: piece) :
    fieldsBehind tag (lead ++ tag.toList ++ Text.unfields pieces) = pieces := by
  rw [fieldsBehind, Text.cut?_append first.lengthen]
  exact Text.fields_unfields nonempty free

/-- What is told by the fields alone is told by other rows with the same fields. -/
theorem SurveyRow.map_perm {rows others : List SurveyRow} {f : SurveyRow → α}
    (blind : ∀ row other : SurveyRow, row.fields = other.fields → f row = f other)
    (perm : (rows.map (·.fields)).Perm (others.map (·.fields))) :
    (rows.map f).Perm (others.map f) := by
  have byFields (rows : List SurveyRow) :
      rows.map f = (rows.map (·.fields)).map fun fields => f ⟨0, fields⟩ := by
    rw [List.map_map]
    exact List.map_congr_left fun row _ => blind row _ rfl
  rw [byFields, byFields]
  exact perm.map _

theorem SurveyRow.exists_of_perm {rows others : List SurveyRow} {row : SurveyRow}
    (perm : (rows.map (·.fields)).Perm (others.map (·.fields))) (member : row ∈ rows) :
    ∃ other ∈ others, other.fields = row.fields :=
  List.mem_map.1 (perm.mem_iff.1 (List.mem_map_of_mem member))

/-- Lines in another order hold the same fields. -/
theorem SurveyRow.fields_perm {other : String}
    (perm : (taggedLines tag content).Perm (taggedLines tag other)) :
    ((tagged tag content).map (·.fields)).Perm ((tagged tag other).map (·.fields)) := by
  rw [fields_tagged, fields_tagged]
  exact perm.map _

/-- Either all rows have the width that is asked for, or the first one that has not is named. -/
theorem SurveyRow.parse_cases (tag content : String) (width : Nat) :
    (∀ row ∈ tagged tag content, row.fields.length = width) ∧
        parse tag width content = .ok (tagged tag content) ∨
      ∃ before row after, tagged tag content = before ++ row :: after ∧
        (∀ earlier ∈ before, earlier.fields.length = width) ∧ row.fields.length ≠ width ∧
        parse tag width content = .error (.row row.line (.fieldCount width row.fields.length)) := by
  rw [parse]
  cases found : (tagged tag content).find? fun row => row.fields.length != width with
  | none =>
    refine Or.inl ⟨fun row member => ?_, rfl⟩
    simpa using List.find?_eq_none.1 found row member
  | some row =>
    obtain ⟨wrong, before, after, split, right⟩ := List.find?_eq_some_iff_append.1 found
    refine Or.inr ⟨before, row, after, split, fun earlier member => ?_, bne_iff_ne.1 wrong, rfl⟩
    simpa using right earlier member

end

end RangeTest
