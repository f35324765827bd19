import RangeTest.Proofs.Csv.Writing
import RangeTest.Proofs.Export.Framing
import RangeTest.Proofs.Log.Records
import RangeTest.Proofs.Loss.Proportion

namespace RangeTest

theorem Row.mapM_record? {rows : List Row} {records : List Record}
    (shown : List.Forall₂ (fun r row => row.Shows r) records rows)
    (filled : ∀ r ∈ records, r.Filled) :
    rows.mapM record? = .ok (records.map ({ · with capturedAt := none })) := by
  induction shown with
  | nil => rfl
  | cons first _ ih =>
    rw [List.forall_mem_cons] at filled
    rw [List.mapM_cons, first.record?_eq filled.1, ih filled.2]
    rfl

theorem Row.length_of_shown {rows : List Row} {records : List Record}
    (shown : List.Forall₂ (fun r row => row.Shows r) records rows) :
    ∀ row ∈ rows, row.length = header.length := by
  induction shown with
  | nil => exact List.forall_mem_nil _
  | cons first _ ih => exact List.forall_mem_cons.2 ⟨first.width, ih⟩

theorem Row.header_ne_nil : header ≠ [] := by
  simp only [header, ne_eq, reduceCtorEq, not_false_eq_true]

theorem Analysis.exported_filled {rx tx : LogReader} {a : Analysis}
    (success : (correlate rx tx).1 = .ok a) : ∀ r ∈ a.exported, r.Filled := by
  intro r member
  obtain ⟨link, _, received⟩ := List.mem_flatMap.1 member
  exact packets_filled success _ _ _ r received

/-- The table that is exported of two logs is lossless. Where its rows can be made at all, with or
without a survey, they are written whenever there is room for them. The text reads back as the 41
different headings and then the rows, whatever stands in the cells. Each row gives back under its
headings all columns of the packet that it was made of, and the packets are those received over the
reported links, link by link. -/
theorem Analysis.export_lossless {rx tx : LogReader} {a : Analysis}
    (success : (correlate rx tx).1 = .ok a) {resolver : Option (Resolver σ)} {lengthField : UInt32}
    {source after : σ} {rows : List Row}
    (built : Act.from (a.rows resolver lengthField) source = (.ok rows, after)) :
    Row.header.length = 41 ∧ Row.header.Nodup ∧
      ∃ sink text, Act.from (Csv.write Row.header rows) .unlimited = (.ok (), sink) ∧
        String.fromUTF8? sink.delivered = some text ∧
        Csv.read? text = some (Row.header :: rows) ∧
        rows.mapM Row.record? = .ok
          (((a.links.filter (0 < ·.received)).flatMap fun link =>
            a.correlator.packets .received link.receiver link.sender link.descriptor).map
              ({ · with capturedAt := none })) := by
  have shown := rows_show built
  have even := Row.length_of_shown shown
  have filled : ∀ row ∈ Row.header :: rows, row ≠ [] := by
    rw [List.forall_mem_cons]
    refine ⟨Row.header_ne_nil, fun row member empty => ?_⟩
    have width := even row member
    rw [empty] at width
    exact Row.header_ne_nil (List.length_eq_zero_iff.1 width.symm)
  have written := Csv.write_unlimited even
  have read := Csv.read?_text filled
  generalize Csv.text (Row.header :: rows) = text at written read
  exact ⟨rfl, Row.header_nodup, _, text, written, Text.fromUTF8?_toUTF8 text, read,
    Row.mapM_record? shown (exported_filled success)⟩

/-- A log of records, as a node prints them. -/
def LogReader.ofRecords (source : String) (records : List Record) : LogReader :=
  start source .default ((records.map (Record.line "csv-log: ")).map .ok)

theorem LogReader.readAll_ofRecords {source : String} {records : List Record}
    (readable : ∀ r ∈ records, Record.ofLine "csv-log: " (r.line "csv-log: ") = .matched r) :
    (ofRecords source records).readAll.1 = .ok records := by
  refine readAll_of_matched ?_
  rw [List.forall₂_map_left_iff, List.forall₂_same]
  exact readable

/-- A packet of `B` whose descriptor has to be quoted in a table. -/
def Record.quoted (receiver : String) : Record :=
  { Record.sample 1 receiver with descriptor := "FSK, 50" }

theorem Record.quoted_printable {receiver : String} (named : receiver ∈ ["A", "B"]) :
    (quoted receiver).Printable where
  descriptor := (by decide : "FSK, 50" ≠ "")
  texts := (sample_printable 1 named).texts
  ending := (sample_printable 1 named).ending

theorem Record.ofLine_quoted : ∀ r ∈ [quoted "A", quoted "B", sample 1 "A"],
    ofLine "csv-log: " (r.line "csv-log: ") = .matched r := by
  simp only [List.forall_mem_cons]
  exact ⟨(quoted_printable (by simp)).ofLine_line _, (quoted_printable (by simp)).ofLine_line _,
    ofLine_sample 1 (by simp), List.forall_mem_nil _⟩

/-- What is exported without a survey if `A` received two packets of `B`, and one of them with a
descriptor that `B` did not log. -/
theorem Analysis.rows_quoted : ∃ a rows,
    (correlate (.ofRecords "rx" [.quoted "A", .sample 1 "A"])
      (.ofRecords "tx" [.quoted "B"])).1 = .ok a ∧
    a.correlator = .run (Intake.logs [.quoted "A", .sample 1 "A"] [.quoted "B"]) ∧
    a.exported = [.quoted "A"] ∧
    Act.from (a.rows (none : Option (Resolver Unit)) 1) () = (.ok rows, ()) := by
  have readable (records : List Record) (known : records ⊆ [.quoted "A", .quoted "B", .sample 1 "A"])
      (source : String) : (LogReader.ofRecords source records).readAll.1 = .ok records :=
    LogReader.readAll_ofRecords fun r member => Record.ofLine_quoted r (known member)
  obtain ⟨a, success, correlated, summed⟩ := correlate_of_readAll
    (readable [.quoted "A", .sample 1 "A"] (by simp) "rx") (readable [.quoted "B"] (by simp) "tx")
  have exported : a.exported = [.quoted "A"] := by
    rw [Analysis.exported, summed, correlated]
    decide
  have width : Frame.crcBytes (Record.quoted "A").crcPoly = .ok 2 := by decide
  have framed : ∀ r ∈ a.exported, r.Framed := by
    rw [exported]
    exact List.forall_mem_singleton.2 ⟨2, width⟩
  obtain ⟨rows, built⟩ := rows_plain_decides.succeeds_iff.2 framed
  exact ⟨a, rows, success, correlated, exported, Prod.ext built rfl⟩

/-- A packet whose descriptor holds a comma is read from the table again. -/
theorem Analysis.export_lossless_quoted : ∃ a rows,
    (correlate (.ofRecords "rx" [.quoted "A", .sample 1 "A"])
      (.ofRecords "tx" [.quoted "B"])).1 = .ok a ∧
    Act.from (a.rows (none : Option (Resolver Unit)) 1) () = (.ok rows, ()) ∧
    rows.mapM Row.record? = .ok [.quoted "A"] ∧
    ∃ sink text, Act.from (Csv.write Row.header rows) .unlimited = (.ok (), sink) ∧
      String.fromUTF8? sink.delivered = some text ∧
      Csv.read? text = some (Row.header :: rows) := by
  obtain ⟨a, rows, success, _, exported, built⟩ := rows_quoted
  obtain ⟨_, _, sink, text, written, decoded, read, records⟩ := export_lossless success built
  refine ⟨a, rows, success, built, ?_, sink, text, written, decoded, read⟩
  rw [records]
  change Except.ok (a.exported.map _) = _
  rw [exported]
  rfl

end RangeTest
