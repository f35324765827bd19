import RangeTest.Proofs.Act
import RangeTest.Proofs.Record.Numeral
import RangeTest.Record
import RangeTest.Record.Reader

namespace RangeTest

inductive Column.Kind where
  | text
  | unsigned
  | signed
  deriving DecidableEq

/-- What is logged in a column. -/
def Column.kind : Column → Kind
  | descriptor | preambleWord | crcPoly | crcInit | syncWord | rxLinkAddr | txLinkAddr => .text
  | rssi | rssiOffset => .signed
  | packetNr | payloadLen | lqi | txPower | channel | channelCenterFreq0 | channelSpacing
  | channelCenterFreqCurr | bitrate | symbolRate | rxFiltBw | preambleNibbles | syncWordThr
  | dualSyncEn | syncBits | freqDev | macHdrLen => .unsigned

/-- What stands in a column of a record. -/
inductive Record.Value where
  | text (s : String)
  | number (z : Int)

def Record.value (r : Record) : Column → Value
  | .descriptor => .text r.descriptor
  | .packetNr => .number r.packetNr.toNat
  | .payloadLen => .number r.payloadLen.toNat
  | .rssi => .number r.rssi.toInt
  | .rssiOffset => .number r.rssiOffset.toInt
  | .lqi => .number r.lqi.toNat
  | .txPower => .number r.txPower.toNat
  | .channel => .number r.channel.toNat
  | .channelCenterFreq0 => .number r.channelCenterFreq0.toNat
  | .channelSpacing => .number r.channelSpacing.toNat
  | .channelCenterFreqCurr => .number r.channelCenterFreqCurr.toNat
  | .bitrate => .number r.bitrate.toNat
  | .symbolRate => .number r.symbolRate.toNat
  | .rxFiltBw => .number r.rxFiltBw.toNat
  | .preambleNibbles => .number r.preambleNibbles.toNat
  | .preambleWord => .text r.preambleWord
  | .crcPoly => .text r.crcPoly
  | .crcInit => .text r.crcInit
  | .syncWord => .text r.syncWord
  | .syncWordThr => .number r.syncWordThr.toNat
  | .dualSyncEn => .number r.dualSyncEn.toNat
  | .syncBits => .number r.syncBits.toNat
  | .freqDev => .number r.freqDev.toNat
  | .macHdrLen => .number r.macHdrLen.toNat
  | .rxLinkAddr => .text r.rxLinkAddr
  | .txLinkAddr => .text r.txLinkAddr

/-- Which texts a column takes, and what they mean there: any text but the empty one, or a number
of 32 bits with any zeros in front, behind a sign where the column is signed. -/
inductive Column.Reads (column : Column) (text : List Char) : Record.Value → Prop
  | text : column.kind = .text → text ≠ [] → Reads column text (.text (String.ofList text))
  | unsigned {n : Nat} : column.kind = .unsigned → Numeral.Digits text n → n ≤ 4294967295 →
      Reads column text (.number n)
  | signed {z : Int} : column.kind = .signed → Numeral.SignedDigits text z →
      -2147483648 ≤ z → z ≤ 2147483647 → Reads column text (.number z)

/-- What is said of a text that its column does not take. -/
def Column.fault (column : Column) (text : List Char) : RecordFault :=
  match column.kind with
  | .text => .emptyField column
  | .unsigned | .signed => .invalidNumber column (String.ofList text)

/-- The fault of a row is that of the leftmost text that its column does not take. -/
inductive Column.Blames : List Column → List (List Char) → RecordFault → Prop
  | here {column : Column} {text : List Char} {columns : List Column} {row : List (List Char)} :
      (∀ value, ¬ column.Reads text value) →
      Blames (column :: columns) (text :: row) (column.fault text)
  | later {column : Column} {text : List Char} {columns : List Column} {row : List (List Char)}
      {value : Record.Value} {fault : RecordFault} :
      column.Reads text value → Blames columns row fault →
      Blames (column :: columns) (text :: row) fault

/-- A row spells a record: every text means what the record holds in the column in its place. -/
def Record.SpelledBy (r : Record) (columns : List Column) (row : List (List Char)) : Prop :=
  List.Forall₂ (fun column text => column.Reads text (r.value column)) columns row

/-- No column of the record is empty. -/
def Record.Filled (r : Record) : Prop :=
  ∀ column, r.field column ≠ []

section
variable {column : Column} {text : List Char} {value : Record.Value}

theorem Column.reads_text_iff (kind : column.kind = .text) :
    column.Reads text value ↔ text ≠ [] ∧ value = .text (String.ofList text) := by
  constructor
  · rintro (⟨_, nonempty⟩ | ⟨other⟩ | ⟨other⟩)
    · exact ⟨nonempty, rfl⟩
    · cases kind.symm.trans other
    · cases kind.symm.trans other
  · rintro ⟨nonempty, rfl⟩
    exact .text kind nonempty

theorem Column.reads_unsigned_iff (kind : column.kind = .unsigned) :
    column.Reads text value ↔
      ∃ n : UInt32, Numeral.unsigned? text = some n ∧ value = .number n.toNat := by
  constructor
  · rintro (⟨other⟩ | @⟨n, _, digits, bound⟩ | ⟨other⟩)
    · cases kind.symm.trans other
    · have word : (UInt32.ofNat n).toNat = n :=
        UInt32.toNat_ofNat_of_lt' (Nat.lt_of_le_pred (by decide) bound)
      refine ⟨.ofNat n, Numeral.unsigned?_eq_some_iff.2 ?_, ?_⟩
      · rwa [word]
      · rw [word]
    · cases kind.symm.trans other
  · rintro ⟨n, read, rfl⟩
    exact .unsigned kind (Numeral.unsigned?_eq_some_iff.1 read) (Nat.le_pred_of_lt n.toNat_lt)

theorem Column.reads_signed_iff (kind : column.kind = .signed) :
    column.Reads text value ↔
      ∃ n : Int32, Numeral.signed? text = some n ∧ value = .number n.toInt := by
  constructor
  · rintro (⟨other⟩ | ⟨other⟩ | @⟨z, _, digits, lower, upper⟩)
    · cases kind.symm.trans other
    · cases kind.symm.trans other
    · have word : (Int32.ofInt z).toInt = z :=
        Int32.toInt_ofInt_of_le lower (Int.lt_add_one_of_le upper)
      refine ⟨.ofInt z, Numeral.signed?_eq_some_iff.2 ?_, ?_⟩
      · rwa [word]
      · rw [word]
  · rintro ⟨n, read, rfl⟩
    exact .signed kind (Numeral.signed?_eq_some_iff.1 read) n.le_toInt
      (Int.le_of_lt_add_one n.toInt_lt)

/-- A text means one thing in a column. -/
theorem Column.Reads.unique {other : Record.Value} (first : column.Reads text value)
    (second : column.Reads text other) : value = other := by
  cases kind : column.kind with
  | text =>
    rw [reads_text_iff kind] at first second
    rw [first.2, second.2]
  | unsigned =>
    obtain ⟨n, read, rfl⟩ := (reads_unsigned_iff kind).1 first
    obtain ⟨m, again, rfl⟩ := (reads_unsigned_iff kind).1 second
    rw [Option.some.inj (read.symm.trans again)]
  | signed =>
    obtain ⟨n, read, rfl⟩ := (reads_signed_iff kind).1 first
    obtain ⟨m, again, rfl⟩ := (reads_signed_iff kind).1 second
    rw [Option.some.inj (read.symm.trans again)]

/-- What is written into a column reads back. -/
theorem Record.reads_field {r : Record} (filled : r.field column ≠ []) :
    column.Reads (r.field column) (r.value column) := by
  have text (s : String) (kind : column.kind = .text) (nonempty : s.toList ≠ []) :
      column.Reads s.toList (.text s) :=
    (Column.reads_text_iff kind).2 ⟨nonempty, by rw [String.ofList_toList]⟩
  have unsigned (n : UInt32) (kind : column.kind = .unsigned) :
      column.Reads (Numeral.write n.toNat) (.number n.toNat) :=
    (Column.reads_unsigned_iff kind).2 ⟨n, Numeral.unsigned?_write n, rfl⟩
  have signed (n : Int32) (kind : column.kind = .signed) :
      column.Reads (Numeral.writeInt n.toInt) (.number n.toInt) :=
    (Column.reads_signed_iff kind).2 ⟨n, Numeral.signed?_writeInt n, rfl⟩
  cases column
  all_goals first | exact text _ rfl filled | exact unsigned _ rfl | exact signed _ rfl

/-- What was read into a column is not empty when it is written. -/
theorem Record.field_ne_nil {r : Record} (reads : column.Reads text (r.value column)) :
    r.field column ≠ [] := by
  have nonempty (s : String) (kind : column.kind = .text) (same : column.Reads text (.text s)) :
      s.toList ≠ [] := by
    obtain ⟨given, read⟩ := (Column.reads_text_iff kind).1 same
    rwa [Record.Value.text.inj read, String.toList_ofList]
  cases column
  all_goals
    first
    | exact nonempty _ rfl reads
    | exact Numeral.write_ne_nil _
    | exact Numeral.writeInt_ne_nil _

end

section
variable {columns : List Column} {row : List (List Char)} {fault other : RecordFault}
  {r s : Record}

theorem Column.Blames.unique (first : Blames columns row fault)
    (second : Blames columns row other) : fault = other := by
  induction first with
  | here unread =>
    cases second with
    | here => rfl
    | later reads => exact absurd reads (unread _)
  | later reads _ ih =>
    cases second with
    | here unread => exact absurd reads (unread _)
    | later _ blamed => exact ih blamed

/-- A row that spells a record has no fault. -/
theorem Record.SpelledBy.not_blames (spelled : r.SpelledBy columns row) :
    ¬ Column.Blames columns row fault := by
  intro blamed
  induction blamed with
  | here unread =>
    cases spelled with
    | cons reads => exact unread _ reads
  | later _ _ ih =>
    cases spelled with
    | cons _ rest => exact ih rest

theorem Record.SpelledBy.value_eq (first : r.SpelledBy columns row)
    (second : s.SpelledBy columns row) : ∀ column ∈ columns, r.value column = s.value column := by
  induction first with
  | nil => exact List.forall_mem_nil _
  | cons reads _ ih =>
    cases second with
    | cons again rest => exact List.forall_mem_cons.2 ⟨reads.unique again, ih rest⟩

/-- A record that a row spells has no empty column. -/
theorem Record.SpelledBy.filled (spelled : r.SpelledBy Column.all row) : r.Filled := by
  intro column
  have listed : column ∈ Column.all := by cases column <;> decide
  obtain ⟨text, _, reads⟩ := exists_of_forall₂ spelled column listed
  exact field_ne_nil reads

/-- What a node prints of a record spells it. -/
theorem Record.Filled.spelled (filled : r.Filled) (capturedAt : Option Moment) :
    { r with capturedAt }.SpelledBy Column.all (Column.all.map r.field) := by
  rw [SpelledBy, List.forall₂_map_right_iff, List.forall₂_same]
  intro column _
  have same : { r with capturedAt }.value column = r.value column := by cases column <;> rfl
  exact same ▸ reads_field (filled column)

end

/-- A record is its capture time and what stands in its columns. -/
theorem Record.ext_value {r s : Record} (capturedAt : r.capturedAt = s.capturedAt)
    (values : ∀ column ∈ Column.all, r.value column = s.value column) : r = s := by
  cases r
  cases s
  simp only [Column.all, List.forall_mem_cons, value, Value.text.injEq, Value.number.injEq,
    Int.ofNat_inj, UInt32.toNat_inj, Int32.toInt_inj] at values
  simp only [Record.mk.injEq]
  exact ⟨capturedAt, by simpa using values⟩

/-- A reader takes one text and gives what it means in the column, or finds the fault. -/
def FieldReader.Takes (x : FieldReader α) (column : Column) (value : α → Record.Value) : Prop :=
  ∀ text rest,
    (∃ a, x.run (text :: rest) = .ok (a, rest) ∧ column.Reads text (value a)) ∨
    x.run (text :: rest) = .error (column.fault text) ∧ ∀ v, ¬ column.Reads text v

/-- A reader of records gives a record that the row spells and of which something else is known, or
finds the fault of the row. -/
def FieldReader.Decides (x : FieldReader Record) (columns : List Column)
    (Known : Record → Prop) : Prop :=
  ∀ row, row.length = columns.length →
    (∃ r, x.run row = .ok (r, []) ∧ r.SpelledBy columns row ∧ Known r) ∨
    ∃ fault, x.run row = .error fault ∧ Column.Blames columns row fault

section
variable {column : Column}

theorem FieldReader.text_takes (kind : column.kind = .text) : (text column).Takes column .text := by
  intro field rest
  cases field with
  | nil =>
    have fault : column.fault [] = .emptyField column := by rw [Column.fault, kind]
    exact Or.inr ⟨fault ▸ rfl, fun v reads => ((Column.reads_text_iff kind).1 reads).1 rfl⟩
  | cons c cs =>
    exact Or.inl ⟨_, rfl, (Column.reads_text_iff kind).2 ⟨List.cons_ne_nil c cs, rfl⟩⟩

theorem FieldReader.unsigned_takes (kind : column.kind = .unsigned) :
    (unsigned column).Takes column fun n => .number n.toNat := by
  intro field rest
  simp only [unsigned, next, StateT.run_bind, StateT.run_get]
  cases read : Numeral.unsigned? field with
  | some n =>
    refine Or.inl ⟨n, ?_, (Column.reads_unsigned_iff kind).2 ⟨n, read, rfl⟩⟩
    simp [read]
    rfl
  | none =>
    have fault : column.fault field = .invalidNumber column (String.ofList field) := by
      rw [Column.fault, kind]
    refine Or.inr ⟨?_, fun v reads => ?_⟩
    · simp [read, fault]
      rfl
    · obtain ⟨n, again, _⟩ := (Column.reads_unsigned_iff kind).1 reads
      cases read.symm.trans again

theorem FieldReader.signed_takes (kind : column.kind = .signed) :
    (signed column).Takes column fun n => .number n.toInt := by
  intro field rest
  simp only [signed, next, StateT.run_bind, StateT.run_get]
  cases read : Numeral.signed? field with
  | some n =>
    refine Or.inl ⟨n, ?_, (Column.reads_signed_iff kind).2 ⟨n, read, rfl⟩⟩
    simp [read]
    rfl
  | none =>
    have fault : column.fault field = .invalidNumber column (String.ofList field) := by
      rw [Column.fault, kind]
    refine Or.inr ⟨?_, fun v reads => ?_⟩
    · simp [read, fault]
      rfl
    · obtain ⟨n, again, _⟩ := (Column.reads_signed_iff kind).1 reads
      cases read.symm.trans again

/-- The rest of a row is read knowing what the first text means. -/
theorem FieldReader.Takes.bind {x : FieldReader α} {f : α → FieldReader Record}
    {value : α → Record.Value} {columns : List Column} {Known : Record → Prop}
    (first : x.Takes column value)
    (others : ∀ a, (f a).Decides columns fun r => r.value column = value a ∧ Known r) :
    (x >>= f).Decides (column :: columns) Known := by
  intro row width
  cases row with
  | nil => cases width
  | cons text row =>
    rcases first text row with ⟨a, run, reads⟩ | ⟨run, unread⟩
    · have onward : (x >>= f).run (text :: row) = (f a).run row := by
        rw [StateT.run_bind, run]
        rfl
      rw [onward]
      rcases others a row (Nat.succ.inj width) with ⟨r, read, spelled, same, known⟩ | blamed
      · exact Or.inl ⟨r, read, .cons (same ▸ reads) spelled, known⟩
      · obtain ⟨fault, read, blames⟩ := blamed
        exact Or.inr ⟨fault, read, .later reads blames⟩
    · refine Or.inr ⟨_, ?_, .here unread⟩
      rw [StateT.run_bind, run]
      rfl

theorem FieldReader.Decides.pure {r : Record} {Known : Record → Prop} (known : Known r) :
    Decides (Pure.pure r) [] Known := by
  intro row width
  obtain rfl := List.length_eq_zero_iff.1 width
  exact Or.inl ⟨r, rfl, .nil, known⟩

end

theorem FieldReader.record_decides (capturedAt : Option Moment) :
    (record capturedAt).Decides Column.all (·.capturedAt = capturedAt) := by
  refine (text_takes rfl).bind fun _ => ?_
  iterate 2 refine (unsigned_takes rfl).bind fun _ => ?_
  iterate 2 refine (signed_takes rfl).bind fun _ => ?_
  iterate 10 refine (unsigned_takes rfl).bind fun _ => ?_
  iterate 4 refine (text_takes rfl).bind fun _ => ?_
  iterate 5 refine (unsigned_takes rfl).bind fun _ => ?_
  iterate 2 refine (text_takes rfl).bind fun _ => ?_
  refine Decides.pure ?_
  simp only [Record.value, and_self]

/-- The columns of a record read back as the record, up to its capture time. -/
theorem FieldReader.record_fields (capturedAt : Option Moment) {r : Record} (filled : r.Filled) :
    (record capturedAt).run (Column.all.map r.field) = .ok ({ r with capturedAt }, []) := by
  have spelled := filled.spelled capturedAt
  rcases record_decides capturedAt _ (List.length_map r.field) with
    ⟨s, read, again, captured⟩ | ⟨fault, _, blamed⟩
  · rw [read, Record.ext_value captured (again.value_eq spelled)]
  · exact absurd blamed spelled.not_blames

end RangeTest
