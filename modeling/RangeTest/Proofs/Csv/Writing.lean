import RangeTest.Csv.Writer
import RangeTest.Proofs.Csv.Reading
import RangeTest.Proofs.Delivery

namespace RangeTest

theorem CsvWriter.from_flush (w : CsvWriter) :
    Act.from flush w =
      if w.sink.fits w.held.size then
        (.ok (), ⟨.empty, { w.sink with delivered := w.sink.delivered ++ w.held }⟩)
      else (.error .writerFull, w) := by
  rw [flush, Act.from_bind, Act.from_get]
  dsimp only
  rw [Act.from_bind, Act.from_zoom, Sink.from_write]
  by_cases room : w.sink.fits w.held.size = true
  · rw [if_pos room, if_pos room]
    rfl
  · rw [if_neg room, if_neg room]

/-- All bytes that a writer was given, those delivered and those held back. -/
def CsvWriter.bytes (w : CsvWriter) : List UInt8 :=
  w.sink.bytes ++ w.held.data.toList

/-- How an action may end that is to write some bytes: with all of them written, or at the limit of
the sink. -/
inductive CsvWriter.Ends (before : CsvWriter) (bytes : List UInt8) : Except ε α × CsvWriter → Prop
  | written {value : α} {after : CsvWriter} (capacity : after.sink.capacity = before.sink.capacity)
      (whole : after.bytes = before.bytes ++ bytes) : Ends before bytes (.ok value, after)
  | full {error : ε} {after : CsvWriter} {n : Nat} (capacity : before.sink.capacity = some n)
      (beyond : n < (before.bytes ++ bytes).length)
      (part : after.bytes <+: before.bytes ++ bytes) : Ends before bytes (.error error, after)

/-- An action writes some bytes if from every state it ends with these bytes written, or for want of
room with a part of all bytes, from the first one on. -/
def CsvWriter.Writes (act : Act CsvWriter ε α) (bytes : List UInt8) : Prop :=
  ∀ before, Ends before bytes (Act.from act before)

theorem CsvWriter.Writes.pure (value : α) : Writes (Pure.pure value : Act CsvWriter ε α) [] :=
  fun _ => .written rfl (List.append_nil _).symm

theorem CsvWriter.Writes.bind {act : Act CsvWriter ε α} {next : α → Act CsvWriter ε β}
    {some more : List UInt8} (first : Writes act some) (second : ∀ value, Writes (next value) more) :
    Writes (act >>= next) (some ++ more) := by
  intro before
  rw [Act.from_bind]
  have began := first before
  generalize Act.from act before = result at began
  cases began with
  | written capacity whole =>
    rename_i after value
    have went := second value after
    dsimp only
    generalize Act.from (next value) after = last at went
    cases went with
    | written capacity' whole' =>
      exact .written (capacity'.trans capacity) (by rw [whole', whole, List.append_assoc])
    | full capacity' beyond part =>
      rw [whole, List.append_assoc] at beyond part
      exact .full (capacity.symm.trans capacity') beyond part
  | full capacity beyond part =>
    refine .full capacity ?_ ?_
    · rw [← List.append_assoc, List.length_append]
      exact Nat.lt_add_right _ beyond
    · rw [← List.append_assoc]
      exact part.trans (List.prefix_append _ _)

theorem CsvWriter.Writes.mapError {act : Act CsvWriter ε α} {bytes : List UInt8} (f : ε → ε')
    (writes : Writes act bytes) : Writes (Act.mapError f act) bytes := by
  intro before
  rw [Act.from_mapError]
  have ends := writes before
  generalize Act.from act before = result at ends
  cases ends with
  | written capacity whole => exact .written capacity whole
  | full capacity beyond part => exact .full capacity beyond part

theorem CsvWriter.Writes.forM {items : List ι} {act : ι → Act CsvWriter ε PUnit}
    {bytes : ι → List UInt8} (each : ∀ item ∈ items, Writes (act item) (bytes item)) :
    Writes (items.forM act) (items.flatMap bytes) := by
  induction items with
  | nil => exact .pure _
  | cons item items ih =>
    rw [List.forall_mem_cons] at each
    exact each.1.bind fun _ => ih each.2

theorem Sink.lt_of_not_fits {sink : Sink} {size : Nat} (beyond : ¬ sink.fits size = true) :
    ∃ n, sink.capacity = some n ∧ n < sink.bytes.length + size := by
  rw [fits] at beyond
  split at beyond
  · exact absurd rfl beyond
  · rename_i n limited
    exact ⟨n, limited, by simpa [bytes] using beyond⟩

theorem CsvWriter.flush_writes : Writes flush [] := by
  intro before
  rw [from_flush]
  split
  · exact .written rfl (by simp [bytes, Sink.bytes])
  · rename_i beyond
    obtain ⟨n, limited, short⟩ := Sink.lt_of_not_fits beyond
    refine .full limited ?_ (List.prefix_append _ _)
    rw [List.append_nil, bytes, List.length_append]
    exact short

theorem CsvWriter.data_foldl_push (held : ByteArray) (bytes : List UInt8) :
    (bytes.foldl ByteArray.push held).data.toList = held.data.toList ++ bytes := by
  induction bytes generalizing held with
  | nil => exact (List.append_nil _).symm
  | cons b bytes ih =>
    have pushed : (held.push b).data.toList = held.data.toList ++ [b] := Array.toList_push
    rw [List.foldl_cons, ih, pushed, List.append_assoc, List.singleton_append]

theorem CsvWriter.push_writes (bytes : List UInt8) : Writes (push bytes) bytes := by
  have hold : Writes (modify fun writer =>
      { writer with held := bytes.foldl ByteArray.push writer.held } :
        Act CsvWriter IoError PUnit) bytes := by
    intro before
    refine .written rfl ?_
    rw [CsvWriter.bytes, data_foldl_push, CsvWriter.bytes, List.append_assoc]
  intro before
  rw [push, Act.from_bind, Act.from_get]
  dsimp only
  split
  · exact flush_writes.bind (fun _ => hold) before
  · exact hold before

/-- What is written for a byte of a quoted cell. -/
def CsvWriter.escapeByte (b : UInt8) : List UInt8 :=
  if b = 34 then [34, 34] else [b]

theorem CsvWriter.flatMap_escapeByte_char (c : Char) :
    (String.utf8EncodeChar c).flatMap escapeByte =
      Text.encode (if c = '"' then ['"', '"'] else [c]) := by
  by_cases quote : c = '"'
  · subst c
    decide
  · have plain (b : UInt8) (member : b ∈ String.utf8EncodeChar c) : escapeByte b = [b] := by
      refine if_neg fun same => quote ?_
      subst b
      exact Char.toNat_inj.1 (Text.toNat_of_mem_encodeChar (by decide) member)
    rw [if_neg quote, List.flatMap_congr plain, List.flatMap_singleton', Text.encode_cons,
      Text.encode_nil, List.append_nil]

/-- Doubling the bytes of quotes doubles the quotes, since these bytes are part of nothing else. -/
theorem CsvWriter.flatMap_escapeByte (cell : List Char) :
    (Text.encode cell).flatMap escapeByte = Text.encode (Csv.doubleQuotes cell) := by
  induction cell with
  | nil => rfl
  | cons c cell ih =>
    rw [Text.encode_cons, List.flatMap_append, flatMap_escapeByte_char, ih, ← Text.encode_append]
    rfl

theorem CsvWriter.flatten_cell (cell : String) :
    (cellGroups cell).flatten ++ (closing cell).flatten =
      Text.encode (Csv.writeCell cell.toList) := by
  rw [cellGroups, closing, Csv.writeCell, Text.data_toUTF8]
  by_cases quotes : Csv.needsQuotes cell.toList = true
  · simp only [if_pos quotes, List.flatten_cons]
    rw [← List.flatMap_def]
    have escaped : (Text.encode cell.toList).flatMap (fun b => if b = 34 then [34, 34] else [b]) =
        Text.encode (Csv.doubleQuotes cell.toList) := flatMap_escapeByte cell.toList
    rw [escaped]
    simp [String.utf8EncodeChar]
  · simp only [if_neg quotes]
    rw [← List.flatMap_def, List.flatMap_singleton']
    exact List.append_nil _

theorem CsvWriter.flatten_rowGroups (cell : String) (cells : List String) :
    (rowGroups (cell :: cells)).flatten ++
      (((cell :: cells).getLast?.map closing).getD []).flatten =
        Text.encode (Csv.line (cell :: cells)) := by
  induction cells generalizing cell with
  | nil =>
    rw [Csv.line_singleton]
    exact flatten_cell cell
  | cons next cells ih =>
    rw [Csv.line_cons, Text.encode_append, Text.encode_cons, ← flatten_cell, ← ih, rowGroups]
    · simp [String.utf8EncodeChar, List.getLast?_cons_cons]
    · exact List.cons_ne_nil next cells

theorem CsvWriter.cellGroups_eq_nil {cell : String} (traceless : cellGroups cell = []) :
    cell = "" := by
  rw [cellGroups, Text.data_toUTF8] at traceless
  split at traceless
  · cases traceless
  · exact String.toList_eq_nil_iff.1 (Text.encode_eq_nil (List.map_eq_nil_iff.1 traceless))

theorem CsvWriter.rowGroups_isEmpty (cells : List String) :
    (rowGroups cells).isEmpty = (Csv.line cells).isEmpty := by
  rw [Bool.eq_iff_iff, List.isEmpty_iff, List.isEmpty_iff]
  cases cells with
  | nil => exact iff_of_true rfl rfl
  | cons cell cells =>
    constructor
    · intro traceless
      cases cells with
      | nil =>
        obtain rfl := cellGroups_eq_nil traceless
        decide
      | cons next cells =>
        rw [rowGroups] at traceless
        · simp at traceless
        · exact List.cons_ne_nil next cells
    · intro traceless
      obtain ⟨rfl, rfl⟩ := Csv.line_eq_nil traceless
      decide

theorem CsvWriter.flatten_row (cells : List String) :
    (rowGroups cells).flatten ++ (ending cells).flatten = Text.encode (Csv.writeRow cells) := by
  rw [ending, rowGroups_isEmpty, Csv.writeRow_eq, Text.encode_append]
  by_cases traceless : (Csv.line cells).isEmpty = true
  · rw [if_pos traceless, if_pos traceless]
    rw [← rowGroups_isEmpty, List.isEmpty_iff] at traceless
    rw [traceless]
    decide
  · rw [if_neg traceless, if_neg traceless]
    cases cells with
    | nil => exact absurd rfl traceless
    | cons cell cells =>
      rw [List.flatten_append, ← List.append_assoc, flatten_rowGroups]
      rfl

theorem CsvWriter.groups_write (groups : List (List UInt8)) :
    Writes (groups.forM push) groups.flatten := by
  have each : Writes (groups.forM push) (groups.flatMap fun group => group) :=
    Writes.forM fun group _ => push_writes group
  rwa [List.flatMap_id'] at each

theorem CsvWriter.row_writes {width : Nat} {cells : List String} (same : cells.length = width) :
    Writes (row width cells) (Text.encode (Csv.writeRow cells)) := by
  rw [row, ← flatten_row]
  refine ((groups_write _).mapError CsvError.io).bind fun _ => ?_
  simp only [same, ne_eq, not_true_eq_false, if_false]
  exact (groups_write _).mapError CsvError.io

/-- A table whose rows are as long as its header is written as its text. -/
theorem CsvWriter.table_writes {header : List String} {rows : List (List String)}
    (even : ∀ row ∈ rows, row.length = header.length) :
    Writes (table header rows) (Text.encode (Csv.text (header :: rows)).toList) := by
  have all : ∀ cells ∈ header :: rows, cells.length = header.length :=
    List.forall_mem_cons.2 ⟨rfl, even⟩
  have each := Writes.forM fun cells member => row_writes (all cells member)
  have whole := (each.mapError ExportError.csv).bind fun _ => flush_writes.mapError ExportError.io
  rw [List.append_nil] at whole
  rw [Csv.text, String.toList_ofList, Text.encode, List.flatMap_assoc]
  exact whole

theorem CsvWriter.held_table {header : List String} {rows : List (List String)}
    {before after : CsvWriter} (done : Act.from (table header rows) before = (.ok (), after)) :
    after.held = .empty := by
  rw [table, Act.from_bind] at done
  split at done
  · rename_i _ full _
    rw [Act.from_mapError, from_flush] at done
    split at done
    · cases done
      rfl
    · cases done
  · cases done

/-- A table that was written has been delivered to its end, and so there was room for it. -/
theorem CsvWriter.fits_table {header : List String} {rows : List (List String)}
    {before after : CsvWriter} (done : Act.from (table header rows) before = (.ok (), after)) :
    after.sink.fits 0 := by
  rw [table, Act.from_bind] at done
  split at done
  · rename_i _ full _
    rw [Act.from_mapError, from_flush] at done
    split at done
    · rename_i room
      cases done
      rw [Sink.fits_iff] at room ⊢
      intro n limited
      have held := room n limited
      rw [Sink.length_bytes] at held ⊢
      rw [ByteArray.size_append]
      exact held
    · cases done
  · cases done

/-- A writer that is given up adds to a sink what it held back, or nothing. -/
theorem CsvWriter.release_prefix (w : CsvWriter) : w.release.bytes <+: w.bytes := by
  rw [release, from_flush]
  split
  · rw [Sink.bytes, ByteArray.data_append, Array.toList_append]
    exact List.prefix_rfl
  · exact List.prefix_append _ _

theorem CsvWriter.release_of_empty {w : CsvWriter} (empty : w.held = .empty) :
    w.release = w.sink := by
  rw [release, from_flush, empty, ByteArray.append_empty]
  split
  · rfl
  · rfl

/-- A table whose rows are as long as its header is written as its text, although bytes of it are
held back for some time. -/
theorem Csv.write_writes {header : List String} {rows : List (List String)}
    (even : ∀ row ∈ rows, row.length = header.length) :
    Sink.Writes (write header rows) (text (header :: rows)) := by
  intro before _
  have ends := CsvWriter.table_writes even ⟨.empty, before⟩
  change Sink.Ends before _ ((Act.from (CsvWriter.table header rows) ⟨.empty, before⟩).1,
    (Act.from (CsvWriter.table header rows) ⟨.empty, before⟩).2.release)
  generalize written : Act.from (CsvWriter.table header rows) ⟨.empty, before⟩ = result at ends
  -- Nothing is held back before the first row.
  have bare : CsvWriter.bytes ⟨.empty, before⟩ = before.bytes := List.append_nil _
  cases ends with
  | written capacity whole =>
    rename_i after _
    have empty := CsvWriter.held_table written
    rw [CsvWriter.bytes, empty, bare] at whole
    have delivered : after.sink.bytes = before.bytes ++ Text.encode (text (header :: rows)).toList :=
      (List.append_nil _).symm.trans whole
    have room := (Sink.fits_of_written capacity delivered).1 (CsvWriter.fits_table written)
    rw [CsvWriter.release_of_empty empty]
    exact .written capacity room delivered
  | full capacity beyond part =>
    rename_i after _ _
    rw [bare] at beyond part
    refine .full (fun room => ?_) (after.release_prefix.trans part)
    have within := Sink.fits_iff.1 room _ capacity
    rw [List.length_append, Text.length_encode] at beyond
    exact Nat.not_lt.2 within beyond

/-- Where there is room for everything, a table whose rows are as long as its header is delivered
as its text. -/
theorem Csv.write_unlimited {header : List String} {rows : List (List String)}
    (even : ∀ row ∈ rows, row.length = header.length) :
    Act.from (write header rows) .unlimited =
      (.ok (), ⟨none, (text (header :: rows)).toUTF8⟩) :=
  (write_writes even).from_unlimited

end RangeTest
