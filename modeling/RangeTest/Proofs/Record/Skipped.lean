import RangeTest.Proofs.Log.Reading
import RangeTest.Proofs.Text.Cut

namespace RangeTest

/-- A line without the line feed, or the carriage return and line feed, that ends it. -/
def Text.withoutEnd (s : List Char) : List Char :=
  if ['\r', '\n'].isSuffixOf s then s.dropLast.dropLast
  else if ['\n'].isSuffixOf s then s.dropLast
  else s

/-- The end of a line is blank. -/
theorem Text.exists_withoutEnd (s : List Char) :
    ∃ ending, s = withoutEnd s ++ ending ∧ ∀ c ∈ ending, isBlank c = true := by
  rw [withoutEnd]
  split
  · rename_i crlf
    obtain ⟨body, rfl⟩ := List.isSuffixOf_iff_suffix.1 crlf
    exact ⟨['\r', '\n'], by simp, by simp [isBlank]⟩
  · split
    · rename_i lf
      obtain ⟨body, rfl⟩ := List.isSuffixOf_iff_suffix.1 lf
      exact ⟨['\n'], by simp, by simp [isBlank]⟩
    · exact ⟨[], (List.append_nil s).symm, by simp⟩

theorem Text.trimEnd_withoutEnd (s : List Char) : trimEnd (withoutEnd s) = trimEnd s := by
  obtain ⟨ending, whole, blank⟩ := exists_withoutEnd s
  have trimmed := trimEnd_append (withoutEnd s) ending
  rw [if_pos (trimEnd_of_blank blank), ← whole] at trimmed
  exact trimmed.symm

/-- Trimming changes a text if and only if it ends in a blank. -/
theorem Text.length_trimEnd_lt_iff {s : List Char} :
    (trimEnd s).length < s.length ↔ ∃ c, s.getLast? = some c ∧ isBlank c = true := by
  constructor
  · intro shorter
    by_contra solid
    have ending (c : Char) (last : s.getLast? = some c) : isBlank c = false :=
      Bool.eq_false_iff.2 fun blank => solid ⟨c, last, blank⟩
    rw [trimEnd_eq_self ending] at shorter
    exact Nat.lt_irrefl _ shorter
  · rintro ⟨c, last, blank⟩
    obtain ⟨front, rfl⟩ := List.getLast?_eq_some_iff.1 last
    have trimmed := length_trimEnd_append_le front [c]
    rw [trimEnd_of_blank (List.forall_mem_singleton.2 blank)] at trimmed
    rw [List.length_append]
    exact Nat.lt_of_le_of_lt trimmed (Nat.lt_succ_self _)

/-- Trimming cuts into a mark if and only if the mark ends in a blank and only blanks follow. -/
theorem Text.length_trimEnd_mark_lt_iff {mark rest : List Char} :
    (trimEnd (mark ++ rest)).length < mark.length ↔
      (∃ c, mark.getLast? = some c ∧ isBlank c = true) ∧ ∀ c ∈ rest, isBlank c = true := by
  have blank : trimEnd rest = [] ↔ ∀ c ∈ rest, isBlank c = true :=
    List.rdropWhile_eq_nil_iff
  rw [trimEnd_append, ← blank]
  split
  · rename_i nothing
    rw [length_trimEnd_lt_iff, and_iff_left nothing]
  · rename_i something
    rw [List.length_append]
    refine iff_of_false ?_ fun both => something both.2
    omega

/-- What follows an occurrence of a mark is the end of what follows the first one. -/
theorem Text.FirstMark.suffix {mark lead rest before after : List Char}
    (first : FirstMark mark lead rest) (split : lead ++ mark ++ rest = before ++ mark ++ after) :
    after <:+ rest := by
  have later := first before after split
  have lengths := congrArg List.length split
  simp only [List.length_append] at lengths
  exact List.suffix_of_suffix_length_le ⟨before ++ mark, split.symm⟩ ⟨lead ++ mark, rfl⟩ (by omega)

theorem Record.ofLine_eq_skipped_iff_cut? {tag line : String} :
    ofLine tag line = .skipped ↔ Text.cut? tag.toList (Text.trimEnd line.toList) = none := by
  rw [ofLine]
  cases Text.cut? tag.toList (Text.trimEnd line.toList) with
  | none => exact iff_of_true rfl rfl
  | some parts =>
    refine iff_of_false ?_ (Option.some_ne_none parts)
    dsimp only
    cases ofPayload (captureTime? parts.1) parts.2 <;> exact LineReading.noConfusion

/-- Which lines are skipped: those without the tag, and those that lose the end of a tag that ends
in a blank when they are trimmed, since only blanks follow it. -/
theorem Record.ofLine_eq_skipped_iff (tag line : String) :
    ofLine tag line = .skipped ↔
      ¬ tag.toList <:+: Text.withoutEnd line.toList ∨
        (∃ c, tag.toList.getLast? = some c ∧ Text.isBlank c = true) ∧
          ∀ lead rest, Text.withoutEnd line.toList = lead ++ tag.toList ++ rest →
            ∀ c ∈ rest, Text.isBlank c = true := by
  rw [ofLine_eq_skipped_iff_cut?, ← Text.trimEnd_withoutEnd]
  generalize Text.withoutEnd line.toList = body
  cases cut : Text.cut? tag.toList body with
  | none =>
    have absent := Text.cut?_eq_none_iff.1 cut
    have trimmed : ¬ tag.toList <:+: Text.trimEnd body := fun occurs =>
      absent (occurs.trans (Text.isPrefix_trimEnd body).isInfix)
    exact iff_of_true (Text.cut?_eq_none_iff.2 trimmed) (Or.inl absent)
  | some parts =>
    obtain ⟨lead, rest⟩ := parts
    obtain rfl := Text.eq_append_of_cut? cut
    have first := Text.firstMark_of_cut? cut
    have occurs : tag.toList <:+: lead ++ tag.toList ++ rest := ⟨lead, rest, rfl⟩
    have lost : Text.cut? tag.toList (Text.trimEnd (lead ++ tag.toList ++ rest)) = none ↔
        (Text.trimEnd (tag.toList ++ rest)).length < tag.toList.length := by
      rw [Text.cut?_trimEnd first, ← Nat.not_le, ite_eq_right_iff]
      exact ⟨fun kept marked => Option.some_ne_none _ (kept marked),
        fun reached marked => absurd marked reached⟩
    rw [lost, Text.length_trimEnd_mark_lt_iff, or_iff_right (not_not_intro occurs)]
    refine and_congr_right fun _ => ⟨fun blank before after split c member => ?_,
      fun blank => blank lead rest rfl⟩
    exact blank c ((first.suffix split).mem member)

/-- A record that is cut off right behind its tag vanishes, even where a malformed record is an
error. -/
theorem LogReader.cut_off_record_vanishes :
    "csv-log: ".toList <:+: Text.withoutEnd "csv-log: ".toList ∧
    Record.ofLine "csv-log: " "csv-log: " = .skipped ∧
    LogSettings.default.skipMalformed = false ∧
    (start "rx" .default [.ok "csv-log: "]).readAll.1 = .ok [] := by
  have occurs : "csv-log: ".toList <:+: Text.withoutEnd "csv-log: ".toList := by
    decide +kernel
  have skipped : Record.ofLine "csv-log: " "csv-log: " = .skipped := by
    decide +kernel
  refine ⟨occurs, skipped, rfl, ?_⟩
  have passed : drain (fun records record => (record :: records, [])) []
      (start "rx" .default [.ok "csv-log: "]) =
        drain _ _ ⟨"rx", .default, [], 1, { skipped := 1 }⟩ := drain_skipped skipped
  rw [readAll, passed, drain_nil]
  rfl

end RangeTest
