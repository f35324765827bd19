import Mathlib.Data.List.Basic
import RangeTest.Csv.Reader
import RangeTest.Csv.Writer

namespace RangeTest

attribute [simp] Csv.readFrom

/-- A reader that has taken some text into the open cell. -/
def CsvCursor.pushAll (k : CsvCursor) (cell : List Char) : CsvCursor :=
  { k with cell := cell.reverse ++ k.cell }

/-- A reader that has met what parts cells or what ends a row. -/
def CsvCursor.finish (k : CsvCursor) (mark : Char) : CsvCursor :=
  if mark = ',' then k.endCell else k.endRow

theorem CsvCursor.pushAll_push (k : CsvCursor) (c : Char) (cell : List Char) :
    (k.push c).pushAll cell = k.pushAll (c :: cell) := by
  simp [pushAll, push]

theorem Csv.needsQuotes_cons {c : Char} {cell : List Char} (bare : needsQuotes (c :: cell) = false) :
    c ≠ ',' ∧ c ≠ '"' ∧ c ≠ '\r' ∧ c ≠ '\n' ∧ needsQuotes cell = false := by
  simpa [needsQuotes, and_assoc] using bare

/-- Inside of quotes the reader undoes the doubling of quotes. -/
theorem Csv.readFrom_quoted (k : CsvCursor) (cell rest : List Char) :
    readFrom k .quoted (doubleQuotes cell ++ rest) = readFrom (k.pushAll cell) .quoted rest := by
  induction cell generalizing k with
  | nil => rfl
  | cons c cell ih =>
    have step : readFrom k .quoted (doubleQuotes (c :: cell) ++ rest) =
        readFrom (k.push c) .quoted (doubleQuotes cell ++ rest) := by
      rw [doubleQuotes, List.flatMap_cons]
      by_cases quote : c = '"'
      · subst c
        rw [if_pos rfl, List.append_assoc, List.cons_append, List.cons_append, List.nil_append,
          readFrom]
        rfl
      · rw [if_neg quote, List.append_assoc, List.singleton_append, readFrom]
        · rfl
        all_goals simp [quote]
    rw [step, ih, CsvCursor.pushAll_push]

theorem Csv.readFrom_plain (k : CsvCursor) {cell : List Char} (bare : needsQuotes cell = false)
    (rest : List Char) :
    readFrom k .plain (cell ++ rest) = readFrom (k.pushAll cell) .plain rest := by
  induction cell generalizing k with
  | nil => rfl
  | cons c cell ih =>
    obtain ⟨comma, quote, cr, lf, bare⟩ := needsQuotes_cons bare
    rw [List.cons_append, readFrom]
    · rw [ih _ bare, CsvCursor.pushAll_push]
    all_goals simp [comma, quote, cr, lf]

section
variable {mark : Char} (marks : mark = ',' ∨ mark = '\n')
include marks

theorem Csv.readFrom_closed (k : CsvCursor) (rest : List Char) :
    readFrom k .quoted ('"' :: mark :: rest) = readFrom (k.finish mark) .cellStart rest := by
  rcases marks with rfl | rfl
  · rw [readFrom]
    rfl
  · rw [readFrom]
    rfl

theorem Csv.readFrom_mark (k : CsvCursor) {place : CsvPlace} (bare : place ≠ .quoted)
    (rest : List Char) :
    readFrom k place (mark :: rest) = readFrom (k.finish mark) .cellStart rest := by
  rcases marks with rfl | rfl
  · cases place with
    | quoted => exact absurd rfl bare
    | cellStart => simp [CsvCursor.finish]
    | plain => simp [CsvCursor.finish]
  · cases place with
    | quoted => exact absurd rfl bare
    | cellStart => simp [CsvCursor.finish]
    | plain => simp [CsvCursor.finish]

theorem Csv.readFrom_cell (k : CsvCursor) (cell rest : List Char) :
    readFrom k .cellStart (writeCell cell ++ mark :: rest) =
      readFrom ((k.pushAll cell).finish mark) .cellStart rest := by
  rw [writeCell]
  by_cases quotes : needsQuotes cell = true
  · rw [if_pos quotes]
    have opened : readFrom k .cellStart ('"' :: doubleQuotes cell ++ ['"'] ++ mark :: rest) =
        readFrom k .quoted (doubleQuotes cell ++ '"' :: mark :: rest) := by
      rw [List.append_assoc, List.cons_append, readFrom, List.singleton_append]
    rw [opened, readFrom_quoted, readFrom_closed marks]
  · rw [if_neg quotes]
    have bare := Bool.eq_false_iff.2 quotes
    cases cell with
    | nil => exact readFrom_mark marks k (by decide) rest
    | cons c cell =>
      obtain ⟨comma, quote, cr, lf, bare⟩ := needsQuotes_cons bare
      rw [List.cons_append, readFrom]
      · rw [readFrom_plain _ bare, CsvCursor.pushAll_push, readFrom_mark marks _ (by decide)]
      all_goals simp [comma, quote, cr, lf]

end

/-- The cells of a row with commas between them. -/
def Csv.line (cells : List String) : List Char :=
  ((cells.map fun cell => writeCell cell.toList).intersperse [',']).flatten

theorem Csv.writeRow_eq (cells : List String) :
    writeRow cells = (if (line cells).isEmpty then ['"', '"'] else line cells) ++ ['\n'] :=
  rfl

@[simp] theorem Csv.line_singleton (cell : String) : line [cell] = writeCell cell.toList := by
  simp [line]

theorem Csv.line_cons (cell next : String) (cells : List String) :
    line (cell :: next :: cells) = writeCell cell.toList ++ ',' :: line (next :: cells) := by
  simp [line]

theorem Csv.writeCell_eq_nil {cell : List Char} (traceless : writeCell cell = []) : cell = [] := by
  rw [writeCell] at traceless
  split at traceless
  · cases traceless
  · exact traceless

/-- Only a single empty cell leaves no trace. -/
theorem Csv.line_eq_nil {cell : String} {cells : List String}
    (traceless : line (cell :: cells) = []) : cell = "" ∧ cells = [] := by
  cases cells with
  | nil =>
    rw [line_singleton] at traceless
    exact ⟨String.toList_eq_nil_iff.1 (writeCell_eq_nil traceless), rfl⟩
  | cons next cells =>
    rw [line_cons] at traceless
    exact absurd (List.append_eq_nil_iff.1 traceless).2 (List.cons_ne_nil _ _)

theorem Csv.readFrom_line (rows : List (List String)) (done : List String) (cell : String)
    (cells : List String) (rest : List Char) :
    readFrom ⟨rows, done, []⟩ .cellStart (line (cell :: cells) ++ '\n' :: rest) =
      readFrom ⟨(done.reverse ++ cell :: cells) :: rows, [], []⟩ .cellStart rest := by
  induction cells generalizing done cell with
  | nil =>
    rw [line_singleton, readFrom_cell (Or.inr rfl)]
    simp [CsvCursor.finish, CsvCursor.pushAll, CsvCursor.endRow, CsvCursor.endCell]
  | cons next cells ih =>
    have closed : (CsvCursor.pushAll ⟨rows, done, []⟩ cell.toList).finish ',' =
        ⟨rows, cell :: done, []⟩ := by
      simp [CsvCursor.finish, CsvCursor.pushAll, CsvCursor.endCell]
    rw [line_cons, List.append_assoc, List.cons_append, readFrom_cell (Or.inl rfl), closed, ih]
    simp

/-- A written row reads back as the row. -/
theorem Csv.readFrom_row (rows : List (List String)) {cells : List String} (filled : cells ≠ [])
    (rest : List Char) :
    readFrom ⟨rows, [], []⟩ .cellStart (writeRow cells ++ rest) =
      readFrom ⟨cells :: rows, [], []⟩ .cellStart rest := by
  obtain ⟨cell, others, rfl⟩ := List.exists_cons_of_ne_nil filled
  rw [writeRow_eq, List.append_assoc, List.singleton_append]
  -- A row of one empty cell is written as a pair of quotes, since an empty line would be no row.
  by_cases traceless : (line (cell :: others)).isEmpty = true
  · obtain ⟨rfl, rfl⟩ := line_eq_nil (List.isEmpty_iff.1 traceless)
    rw [if_pos traceless]
    simp [CsvCursor.endRow, CsvCursor.endCell]
  · rw [if_neg traceless]
    exact readFrom_line rows [] cell others rest

theorem Csv.readFrom_text (read : List (List String)) {rows : List (List String)}
    (filled : ∀ row ∈ rows, row ≠ []) :
    readFrom ⟨read, [], []⟩ .cellStart (rows.flatMap writeRow) = some (read.reverse ++ rows) := by
  induction rows generalizing read with
  | nil =>
    rw [List.flatMap_nil, readFrom, List.append_nil]
    rfl
  | cons row rows ih =>
    rw [List.forall_mem_cons] at filled
    rw [List.flatMap_cons, readFrom_row read filled.1, ih _ filled.2, List.reverse_cons,
      List.append_assoc, List.singleton_append]

/-- The text of a table reads back as the table, whatever its cells hold. -/
theorem Csv.read?_text {rows : List (List String)} (filled : ∀ row ∈ rows, row ≠ []) :
    read? (text rows) = some rows := by
  rw [read?, text, String.toList_ofList]
  exact readFrom_text [] filled

end RangeTest
