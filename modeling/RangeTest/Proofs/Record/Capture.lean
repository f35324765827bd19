import RangeTest.Proofs.Calendar.Stamp
import RangeTest.Proofs.Record.Grammar

namespace RangeTest

/-- A line that names the time at which a record was captured: the text of the time with blanks
around it, the mark behind it, any text up to the first tag, and the record. The line may end in
blanks. -/
inductive Record.TimedLine (tag : String) (text : List Char) (r : Record) (line : String) : Prop
  | intro {before behind more payload : List Char} {pieces row : List (List Char)} :
      (∀ c ∈ before, Text.isBlank c) → (∀ c ∈ behind, Text.isBlank c) →
      Text.trimEnd line.toList =
        before ++ text ++ behind ++ captureMark ++ more ++ tag.toList ++ payload →
      Text.FirstMark tag.toList (before ++ text ++ behind ++ captureMark ++ more) payload →
      Text.Split payload pieces → Folded pieces row → r.SpelledBy Column.all row →
      TimedLine tag text r line

section
variable {s before behind text lead : List Char} {t : Moment}

/-- Blanks around a text are trimmed, and nothing of the text if it holds none. -/
theorem Text.trim_between (blank : ∀ c ∈ before, isBlank c) (blankToo : ∀ c ∈ behind, isBlank c)
    (clear : ∀ c ∈ s, isBlank c = false) : trim (before ++ s ++ behind) = s := by
  rw [trim, trimStart, List.append_assoc, List.dropWhile_append_of_pos blank]
  cases s with
  | nil =>
    rw [List.nil_append, List.dropWhile_eq_nil_iff.2 blankToo]
    rfl
  | cons c rest =>
    have first : ¬ isBlank c = true := Bool.eq_false_iff.1 (clear c List.mem_cons_self)
    rw [List.cons_append, List.dropWhile_cons_of_neg first, ← List.cons_append, trimEnd_append,
      if_pos (trimEnd_of_blank blankToo)]
    exact trimEnd_eq_self fun d last => clear d (List.mem_of_getLast? last)

/-- The mark behind a capture time stands first where the first bar does. -/
theorem Record.cut?_captureMark (clear : '|' ∉ lead) (more : List Char) :
    Text.cut? captureMark (lead ++ captureMark ++ more) = some (lead, more) := by
  refine Text.cut?_append fun other following split => ?_
  by_contra short
  -- The bar of an earlier mark would stand in the text or be the blank of the mark behind it.
  have bar : (lead ++ captureMark ++ more)[other.length + 1]? = some '|' := by
    rw [split, List.append_assoc, List.getElem?_append_right (Nat.le_add_right _ 1),
      Nat.add_sub_cancel_left]
    rfl
  rw [List.append_assoc] at bar
  obtain inside | last : other.length + 1 < lead.length ∨ other.length + 1 = lead.length := by
    omega
  · rw [List.getElem?_append_left inside] at bar
    exact clear (List.mem_of_getElem? bar)
  · rw [last, List.getElem?_append_right le_rfl, Nat.sub_self] at bar
    exact absurd (Option.some.inj bar) (by decide)

theorem Moment.Stamp.clear (stamp : Stamp text t) {c : Char} (member : c ∈ text) :
    Text.isBlank c = false ∧ c ≠ '|' := by
  obtain digit | mark := stamp.digit_or_mark member
  · exact ⟨Text.isBlank_of_isDigit digit, fun bar => absurd (bar ▸ digit) (by decide)⟩
  · have marks : ['-', 'T', ':', '.'].all fun d => !Text.isBlank d && d != '|' := by decide
    simpa using List.all_eq_true.1 marks c mark

/-- A capture time is read whatever blanks stand around it and whatever text comes behind it. -/
theorem Moment.Stamp.captureTime?_eq (stamp : Stamp text t) (genuine : t.Genuine)
    (blank : ∀ c ∈ before, Text.isBlank c) (blankToo : ∀ c ∈ behind, Text.isBlank c)
    (more : List Char) :
    Record.captureTime? (before ++ text ++ behind ++ Record.captureMark ++ more) = some t := by
  have noBar : '|' ∉ before ++ text ++ behind := by
    rw [List.mem_append, List.mem_append]
    rintro ((inside | inside) | inside)
    · exact absurd (blank _ inside) (by decide)
    · exact (stamp.clear inside).2 rfl
    · exact absurd (blankToo _ inside) (by decide)
  rw [Record.captureTime?, Record.cut?_captureMark noBar]
  dsimp only [Option.bind_eq_bind, Option.bind_some]
  rw [Text.trim_between blank blankToo fun c inside => (stamp.clear inside).1,
    stamp.read?_eq genuine]

end

/-- The capture time stands in no column. -/
theorem Record.SpelledBy.recapture {r : Record} {columns : List Column} {row : List (List Char)}
    (spelled : r.SpelledBy columns row) (capturedAt : Option Moment) :
    { r with capturedAt }.SpelledBy columns row := by
  have same (column : Column) : { r with capturedAt }.value column = r.value column := by
    cases column <;> rfl
  exact spelled.imp fun column text reads => (same column).symm ▸ reads

/-- A line that names a capture time is read as its record with that time. -/
theorem Record.TimedLine.ofLine_eq {tag line : String} {text : List Char} {t : Moment} {r : Record}
    (timed : TimedLine tag text r line) (stamp : Moment.Stamp text t) (genuine : t.Genuine) :
    ofLine tag line = .matched { r with capturedAt := some t } := by
  cases timed with
  | @intro before behind more payload pieces row blank blankToo trimmed first parted folded spelled =>
    have captured := stamp.captureTime?_eq genuine blank blankToo more
    have reading := ofPayload_grammar
      (before ++ text ++ behind ++ captureMark ++ more) payload
    rw [Text.split_iff.1 parted, captured] at reading
    rw [ofLine, trimmed, Text.cut?_append first]
    dsimp only
    rw [captured]
    exact reading.unique (.matched folded (spelled.recapture _) captured.symm)

/-- A record that is printed behind a capture time makes such a line. -/
theorem Record.Printable.timedLine {r : Record} (printable : r.Printable) {tag : String}
    {before text behind more blanks : List Char} (blank : ∀ c ∈ before, Text.isBlank c)
    (blankToo : ∀ c ∈ behind, Text.isBlank c) (ending : ∀ c ∈ blanks, Text.isBlank c)
    (first : Text.FirstMark tag.toList (before ++ text ++ behind ++ captureMark ++ more) r.payload) :
    TimedLine tag text r (.ofList
      (before ++ text ++ behind ++ captureMark ++ more ++ tag.toList ++ (r.payload ++ blanks))) := by
  refine .intro blank blankToo ?_ first (Text.split_iff.2 rfl) printable.folded
    (printable.filled.spelled r.capturedAt)
  rw [String.toList_ofList, ← List.append_assoc, Text.trimEnd_append,
    if_pos (Text.trimEnd_of_blank ending), printable.trimEnd_append]

end RangeTest
