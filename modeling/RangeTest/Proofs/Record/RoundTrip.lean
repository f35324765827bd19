import RangeTest.Proofs.Record.Fields
import RangeTest.Proofs.Text.Cut
import RangeTest.Proofs.Text.Fields

namespace RangeTest

/-- The texts of a record besides its descriptor. -/
def Record.texts (r : Record) : List String :=
  [r.preambleWord, r.crcPoly, r.crcInit, r.syncWord, r.rxLinkAddr, r.txLinkAddr]

/-- A record that can be printed without being mistaken for another one. Only the descriptor may
hold separators, and the last text does not end in a blank, which would be trimmed. -/
structure Record.Printable (r : Record) : Prop where
  descriptor : r.descriptor ≠ ""
  texts : ∀ text ∈ r.texts, text ≠ "" ∧ ¬ Text.separator <:+: text.toList
  ending : ∀ c, r.txLinkAddr.toList.getLast? = some c → Text.isBlank c = false

theorem Numeral.separator_free_write (n : Nat) : ¬ Text.separator <:+: write n := by
  intro occurs
  have comma : ',' ∈ write n := occurs.subset List.mem_cons_self
  exact absurd (isDigit_of_mem_write comma) (by decide)

theorem Numeral.separator_free_writeInt (z : Int) : ¬ Text.separator <:+: writeInt z := by
  cases z with
  | ofNat n => exact separator_free_write n
  | negSucc n =>
    rw [writeInt, List.infix_cons_iff, not_or]
    refine ⟨fun front => ?_, separator_free_write (n + 1)⟩
    exact absurd (List.cons_prefix_cons.1 front).1 (by decide)

section
variable {r : Record}

theorem Record.Printable.filled (printable : r.Printable) : r.Filled := by
  have filled (text : String) (nonempty : text ≠ "") : text.toList ≠ [] :=
    mt String.toList_eq_nil_iff.1 nonempty
  have texts (text : String) (member : text ∈ r.texts) : text.toList ≠ [] :=
    filled text (printable.texts text member).1
  intro column
  cases column
  case descriptor => exact filled _ printable.descriptor
  case rssi => exact Numeral.writeInt_ne_nil _
  case rssiOffset => exact Numeral.writeInt_ne_nil _
  all_goals first | exact Numeral.write_ne_nil _ | exact texts _ (by simp [Record.texts])

/-- Behind the descriptor no column holds a separator. -/
theorem Record.Printable.free (printable : r.Printable) {column : Column}
    (other : column ≠ .descriptor) : ¬ Text.separator <:+: r.field column := by
  have texts (text : String) (member : text ∈ r.texts) : ¬ Text.separator <:+: text.toList :=
    (printable.texts text member).2
  cases column
  case descriptor => exact absurd rfl other
  case rssi => exact Numeral.separator_free_writeInt _
  case rssiOffset => exact Numeral.separator_free_writeInt _
  all_goals first | exact Numeral.separator_free_write _ | exact texts _ (by simp [Record.texts])

/-- The pieces of a printed record are those of its descriptor and its other columns. -/
theorem Record.Printable.fields_payload (printable : r.Printable) :
    Text.fields r.payload =
      Text.fields r.descriptor.toList ++ Column.all.tail.map r.field := by
  have row : r.payload =
      r.descriptor.toList ++ ',' :: ' ' :: Text.unfields (Column.all.tail.map r.field) := rfl
  have others : Column.all.tail.map r.field ≠ [] := List.cons_ne_nil _ _
  rw [row, Text.fields_append, Text.fields_unfields others]
  intro piece member
  obtain ⟨column, inTail, rfl⟩ := List.mem_map.1 member
  refine printable.free fun same => ?_
  rw [same] at inTail
  exact absurd inTail (by decide)

end

/-- The last pieces are the columns behind the descriptor; the pieces in front of them, put together
again, are the descriptor. -/
inductive Record.Folded : List (List Char) → List (List Char) → Prop
  | intro {front back : List (List Char)} : front ≠ [] → back.length = Column.all.tail.length →
      Folded (front ++ back) (Text.unfields front :: back)

/-- Surplus pieces at the front become one field again. -/
theorem Record.Folded.foldSurplus_eq {pieces row : List (List Char)} (folded : Folded pieces row) :
    foldSurplus pieces = row := by
  cases folded with
  | @intro front back nonempty width =>
    have positive := List.length_pos_of_ne_nil nonempty
    have columns : Column.all.length = Column.all.tail.length + 1 := rfl
    have surplus : (front ++ back).length - Column.all.length + 1 = front.length := by
      rw [List.length_append, width, columns]
      omega
    rw [foldSurplus, surplus, List.take_left, List.drop_left]

theorem Record.Folded.enough {pieces row : List (List Char)} (folded : Folded pieces row) :
    ¬ pieces.length < Column.all.length := by
  cases folded with
  | intro nonempty width =>
    have positive := List.length_pos_of_ne_nil nonempty
    have columns : Column.all.length = Column.all.tail.length + 1 := rfl
    rw [List.length_append, width, columns]
    omega

theorem Record.Printable.folded {r : Record} (printable : r.Printable) :
    Folded (Text.fields r.payload) (Column.all.map r.field) := by
  have row : Text.unfields (Text.fields r.descriptor.toList) :: Column.all.tail.map r.field =
      Column.all.map r.field := by
    rw [Text.unfields_fields]
    rfl
  rw [printable.fields_payload, ← row]
  exact .intro (Text.fields_ne_nil _) (List.length_map _)

/-- A record that is printed is read back, up to its capture time. -/
theorem Record.Printable.ofPayload {r : Record} (printable : r.Printable)
    (capturedAt : Option Moment) :
    Record.ofPayload capturedAt r.payload = .ok { r with capturedAt } := by
  have folded := printable.folded
  simp only [Record.ofPayload, if_neg folded.enough]
  rw [folded.foldSurplus_eq, StateT.run'_eq,
    FieldReader.record_fields capturedAt printable.filled]
  rfl

/-- Trimming a line stops at the end of the printed record. -/
theorem Record.Printable.trimEnd_append {r : Record} (printable : r.Printable)
    (lead : List Char) : Text.trimEnd (lead ++ r.payload) = lead ++ r.payload := by
  obtain ⟨front, row⟩ := Text.exists_unfields_concat (Column.all.dropLast.map r.field)
    r.txLinkAddr.toList
  have payload : r.payload = front ++ r.txLinkAddr.toList := row
  have filled : r.txLinkAddr.toList ≠ [] := printable.filled .txLinkAddr
  refine Text.trimEnd_eq_self fun c last => printable.ending c ?_
  rwa [payload, ← List.append_assoc, List.getLast?_append_of_ne_nil _ filled] at last

theorem Record.captureTime?_of_unmarked {lead : List Char} (unmarked : ¬ captureMark <:+: lead) :
    captureTime? lead = none := by
  rw [captureTime?, Text.cut?_eq_none_iff.2 unmarked]
  rfl

/-- A record that is printed behind a tag is read back from the line, whatever stands in front of
the tag and whatever blanks end the line. The capture time alone comes from the text in front, and
there is none without its mark. -/
theorem Record.ofLine_payload {r : Record} (printable : r.Printable) {tag lead blanks : String}
    (first : Text.FirstMark tag.toList lead.toList r.payload)
    (blank : ∀ c ∈ blanks.toList, Text.isBlank c = true) :
    ofLine tag (lead ++ tag ++ String.ofList r.payload ++ blanks) =
        .matched { r with capturedAt := captureTime? lead.toList } ∧
      (¬ captureMark <:+: lead.toList → captureTime? lead.toList = none) := by
  have trimmed : Text.trimEnd (lead ++ tag ++ String.ofList r.payload ++ blanks).toList =
      lead.toList ++ tag.toList ++ r.payload := by
    rw [String.toList_append, Text.trimEnd_append, if_pos (Text.trimEnd_of_blank blank),
      String.toList_append, String.toList_append, String.toList_ofList, printable.trimEnd_append]
  refine ⟨?_, captureTime?_of_unmarked⟩
  rw [ofLine, trimmed, Text.cut?_append first]
  simp only [printable.ofPayload]

/-- A record with commas and blanks wherever they may stand, and numbers at their limits. -/
def Record.crowded : Record where
  capturedAt := none
  descriptor := ", csv-log: , 50kbps, "
  packetNr := 4294967295
  payloadLen := 0
  rssi := -2147483648
  rssiOffset := 2147483647
  lqi := 90
  txPower := 14
  channel := 1
  channelCenterFreq0 := 868
  channelSpacing := 2
  channelCenterFreqCurr := 868
  bitrate := 50
  symbolRate := 50
  rxFiltBw := 100
  preambleNibbles := 8
  preambleWord := " ,"
  crcPoly := ","
  crcInit := " "
  syncWord := "\t,"
  syncWordThr := 0
  dualSyncEn := 0
  syncBits := 16
  freqDev := 25
  macHdrLen := 4
  rxLinkAddr := " csv-log: "
  txLinkAddr := " | ,"

theorem Record.crowded_printable : crowded.Printable where
  descriptor := by decide
  texts := by decide
  ending := by
    intro c last
    have comma : crowded.txLinkAddr.toList.getLast? = some ',' := by decide
    rw [comma] at last
    cases last
    decide

/-- The crowded record is read back behind a capture time and the beginnings of two tags. -/
theorem Record.ofLine_payload_crowded :
    crowded.Printable ∧
    ofLine "csv-log: " ("2019-12-11T10:20:30.5 | csv-log:csv-log" ++ "csv-log: " ++
      String.ofList crowded.payload ++ " \t\r\n") =
        .matched { crowded with capturedAt := some ⟨2019, 12, 11, 10, 20, 30, 500000000⟩ } := by
  have cut : Text.cut? "csv-log: ".toList ("2019-12-11T10:20:30.5 | csv-log:csv-log".toList ++
      "csv-log: ".toList ++ crowded.payload) =
        some ("2019-12-11T10:20:30.5 | csv-log:csv-log".toList, crowded.payload) := by
    decide +kernel
  have captured : captureTime? "2019-12-11T10:20:30.5 | csv-log:csv-log".toList =
      some ⟨2019, 12, 11, 10, 20, 30, 500000000⟩ := by
    decide +kernel
  have blank : ∀ c ∈ " \t\r\n".toList, Text.isBlank c = true :=
    List.all_eq_true.1 (by decide +kernel)
  rw [← captured]
  exact ⟨crowded_printable,
    (ofLine_payload crowded_printable (Text.firstMark_of_cut? cut) blank).1⟩

end RangeTest
