import RangeTest.Proofs.Export.Coverage
import RangeTest.Proofs.Log.Leads
import RangeTest.Proofs.Record.Capture

namespace RangeTest

theorem Row.MadeOf.timestamp {row : Row} {r : Record} {t : Moment} (made : row.MadeOf r)
    (captured : r.capturedAt = some t) :
    row.cell? "Timestamp" = some (String.ofList (t.write 6)) := by
  obtain ⟨link, site, frame, rfl⟩ := made
  have cell : (ofRecord r link site frame).cell? "Timestamp" =
      some (optional (fun moment => String.ofList (moment.write 6)) r.capturedAt) := rfl
  rw [cell, captured, optional]

/-- A record is kept if none before it has its number. -/
theorem Record.mem_firsts_of_new {before after : List Record} {r : Record}
    (new : ∀ other ∈ before, other.packetNr ≠ r.packetNr) : r ∈ firsts (before ++ r :: after) := by
  have none : before.filter (·.packetNr == r.packetNr) = [] := by
    rw [List.filter_eq_nil_iff]
    exact fun other member same => new other member (beq_iff_eq.1 same)
  rw [mem_firsts_iff, List.filter_append, none, List.nil_append, List.filter_cons,
    if_pos (beq_self_eq_true _), List.head?_cons]

/-- A record that a node received is filed unless one with the same addresses, descriptor and number
was read before. -/
theorem Correlator.mem_packets_of_new {received transmitted before after : List Record} {r : Record}
    (log : received = before ++ r :: after) (reception : r.rxLinkAddr ≠ r.txLinkAddr)
    (new : ∀ other ∈ before, other.identity ≠ r.identity) :
    r ∈ (run (Intake.logs received transmitted)).packets .received
      r.rxLinkAddr r.txLinkAddr r.descriptor := by
  rw [log, packets_logs_received, List.append_assoc, List.cons_append, Record.receptions,
    List.filter_append, List.filter_cons_of_pos (by simpa using reception)]
  refine Record.mem_firsts_of_new fun other member same => ?_
  obtain ⟨earlier, addressed⟩ := List.mem_filter.1 member
  obtain ⟨rx, tx, _, written⟩ := of_decide_eq_true addressed
  exact new other earlier (by rw [Record.identity, Record.identity, rx, tx, written, same])

section
variable {a : Analysis} {resolver : Option (Resolver σ)} {lengthField : UInt32} {source after : σ}
  {rows : List Row}

/-- The row with the key of a packet that was filed was made of this packet. -/
theorem Analysis.madeOf_of_key (formed : a.correlator.WellFormed)
    (built : Act.from (a.rows resolver lengthField) source = (.ok rows, after)) {r : Record}
    (filed : r ∈ a.correlator.packets .received r.rxLinkAddr r.txLinkAddr r.descriptor) {row : Row}
    (listed : row ∈ rows) (same : row.key = r.key) : row.MadeOf r := by
  obtain ⟨other, exported, made⟩ := exists_of_forall₂ (rows_madeOf built).flip row listed
  have identity := Record.identity_of_key (made.shows.key_eq.symm.trans same)
  obtain ⟨link, _, received⟩ := List.mem_flatMap.1 exported
  obtain ⟨rx, tx, written⟩ := formed.belongs received
  rw [← rx, ← tx, ← written] at received
  have ends := identity
  simp only [Record.identity, Prod.mk.injEq] at ends
  rw [ends.1, ends.2.1, ends.2.2.1] at received
  obtain rfl := List.inj_on_of_nodup_map (formed.identities_nodup _ _ _) received filed identity
  exact made

/-- A packet that was filed has one row if its descriptor was transmitted. -/
theorem Analysis.count_key_of_transmitted (formed : a.correlator.WellFormed)
    (summed : a.links = a.correlator.summaries)
    (built : Act.from (a.rows resolver lengthField) source = (.ok rows, after)) {r : Record}
    (filed : r ∈ a.correlator.packets .received r.rxLinkAddr r.txLinkAddr r.descriptor)
    (transmitted : r.descriptor ∈
      ((a.correlator.nodeAt r.rxLinkAddr).link r.txLinkAddr).base.descriptors) :
    (rows.map Row.key).count r.key = 1 := by
  rw [Row.map_key_of_shown (rows_show built)]
  exact List.count_eq_one_of_mem (exported_keys formed summed)
    (List.mem_map_of_mem (exported_of_transmitted formed summed filed transmitted))

end

/-- A capture time comes from the log to the table as it is. Let a line name it with blanks around it
and any text up to the first tag, and let a record stand behind the tag. The record is read with this
time. It is filed unless the line stands in the receive log behind another one with a record of the
same addresses, descriptor and number. Once it is filed, the `Timestamp` cell of its row is the text
of the line, and there is such a row if the descriptor was transmitted. -/
theorem Analysis.capture_time_kept (rxName txName : String) {rxSettings txSettings : LogSettings}
    {rx tx : ByteArray} {a : Analysis}
    (success : (correlate (.start rxName rxSettings (Text.rawLines rx))
      (.start txName txSettings (Text.rawLines tx))).1 = .ok a)
    {resolver : Option (Resolver σ)} {lengthField : UInt32} {source after : σ} {rows : List Row}
    (built : Act.from (a.rows resolver lengthField) source = (.ok rows, after))
    {text : List Char} {t : Moment} (stamp : Moment.Stamp text t) (genuine : t.Genuine)
    {tag line : String} {r : Record} (timed : Record.TimedLine tag text r line) :
    let captured := { r with capturedAt := some t }
    let filed := captured ∈
      a.correlator.packets .received r.rxLinkAddr r.txLinkAddr r.descriptor
    text.length = 26 ∧
    Record.ofLine tag line = .matched captured ∧
    (∀ earlier later, Text.rawLines rx = earlier ++ .ok line :: later → tag = rxSettings.tag →
      r.rxLinkAddr ≠ r.txLinkAddr →
      (∀ other ∈ earlier.filterMap rxSettings.record?, other.identity ≠ r.identity) → filed) ∧
    (filed → ∀ row ∈ rows, row.key = r.key →
      row.cell? "Timestamp" = some (String.ofList text)) ∧
    (filed → r.descriptor ∈
        ((a.correlator.nodeAt r.rxLinkAddr).link r.txLinkAddr).base.descriptors →
      (rows.map Row.key).count r.key = 1) := by
  intro captured filed
  obtain ⟨soundRx, soundTx⟩ := correlate_ok_iff.1 ⟨a, success⟩
  cases success.symm.trans (correlate_of_sound rxName txName soundRx soundTx)
  have formed := Correlator.WellFormed.run (Intake.logs
    ((Text.rawLines rx).filterMap rxSettings.record?)
    ((Text.rawLines tx).filterMap txSettings.record?))
  have read : Record.ofLine tag line = .matched captured := timed.ofLine_eq stamp genuine
  refine ⟨stamp.length_eq, read, ?_, fun stored row listed same => ?_, fun stored sent => ?_⟩
  · rintro earlier later lines rfl reception new
    have recorded : rxSettings.record? (.ok line) = some captured := by
      simp only [LogSettings.record?, LogSettings.reading, Except.map, read]
    have log : (Text.rawLines rx).filterMap rxSettings.record? =
        earlier.filterMap rxSettings.record? ++
          captured :: later.filterMap rxSettings.record? := by
      rw [lines, List.filterMap_append, List.filterMap_cons_some recorded]
    exact Correlator.mem_packets_of_new log reception new
  · have made := madeOf_of_key formed built stored listed same
    rw [made.timestamp rfl, stamp.write_eq]
  · have once : (rows.map Row.key).count captured.key = 1 :=
      count_key_of_transmitted formed rfl built stored sent
    exact once

/-- The last second of a leap day. -/
theorem Moment.stamp_leap_day :
    Stamp "2020-02-29T23:59:59.000120".toList ⟨2020, 2, 29, 23, 59, 59, 120000⟩ := by
  have part (width n : Nat) (s : String) (length : s.toList.length = width)
      (spelled : Numeral.natural? s.toList = some n) : Numeral.Fixed width s.toList n :=
    ⟨length, Numeral.natural?_eq_some_iff.1 spelled⟩
  exact .intro (part 4 2020 "2020" (by decide) (by decide)) (part 2 2 "02" (by decide) (by decide))
    (part 2 29 "29" (by decide) (by decide)) (part 2 23 "23" (by decide) (by decide))
    (part 2 59 "59" (by decide) (by decide)) (part 2 59 "59" (by decide) (by decide))
    (part 6 120 "000120" (by decide) (by decide))

theorem Moment.genuine_leap_day : Genuine ⟨2020, 2, 29, 23, 59, 59, 120000⟩ where
  month := by decide
  day := by decide
  short := by decide
  february := by decide
  leap := by decide
  hour := by decide
  minute := by decide
  second := by decide

/-- The last second of a leap day, between a tab and blanks, stands in the table. -/
theorem Analysis.capture_time_kept_leap_day : ∃ a rows,
    (correlate
      (.start "rx" .default (Text.rawLines
        ((Record.sample 1 "A").log "\t2020-02-29T23:59:59.000120   | 0:00:01 | ")))
      (.start "tx" .default (Text.rawLines ((Record.sample 1 "B").log "")))).1 = .ok a ∧
    Act.from (a.rows (none : Option (Resolver Unit)) 1) () = (.ok rows, ()) ∧
    (rows.map Row.key).count (Record.sample 1 "A").key = 1 ∧
    ∀ row ∈ rows, row.key = (Record.sample 1 "A").key →
      row.cell? "Timestamp" = some "2020-02-29T23:59:59.000120" := by
  let lead := "\t2020-02-29T23:59:59.000120   | 0:00:01 | "
  have parts : lead.toList = "\t".toList ++ "2020-02-29T23:59:59.000120".toList ++ "  ".toList ++
      Record.captureMark ++ "0:00:01 | ".toList := by decide
  have timed : Record.TimedLine "csv-log: " "2020-02-29T23:59:59.000120".toList (.sample 1 "A")
      (.ofList ((Record.sample 1 "A").lineBehind lead)) := by
    have cut : Text.cut? "csv-log: ".toList (lead.toList ++ "csv-log: ".toList ++
        (Record.sample 1 "A").payload) = some (lead.toList, (Record.sample 1 "A").payload) := by
      decide
    rw [Record.lineBehind, parts]
    rw [parts] at cut
    exact (Record.sample_printable 1 (by simp)).timedLine (List.all_eq_true.1 (by decide))
      (List.all_eq_true.1 (by decide)) (List.all_eq_true.1 (by decide))
      (Text.firstMark_of_cut? cut)
  have oneLine : '\n' ∉ lead.toList ++ "csv-log: ".toList ++ (Record.sample 1 "A").payload := by
    decide
  obtain ⟨a, success, correlated⟩ := correlate_lead oneLine
    (timed.ofLine_eq Moment.stamp_leap_day Moment.genuine_leap_day)
  obtain ⟨_, _, _, _, _, summed⟩ := correlate_ok success
  have exported : a.exported = [{ Record.sample 1 "A" with
      capturedAt := some ⟨2020, 2, 29, 23, 59, 59, 120000⟩ }] := by
    rw [Analysis.exported, summed, correlated]
    decide
  have width : Frame.crcBytes (Record.sample 1 "A").crcPoly = .ok 2 := by decide
  have framed : ∀ r ∈ a.exported, r.Framed := by
    rw [exported]
    exact List.forall_mem_singleton.2 ⟨2, width⟩
  obtain ⟨rows, built⟩ := rows_plain_decides.succeeds_iff.2 framed
  have transmitted :
      "GFSK" ∈ ((a.correlator.nodeAt "A").link "B").base.descriptors := by
    rw [correlated]
    decide
  obtain ⟨_, _, stored, shown, once⟩ := capture_time_kept "rx" "tx" success (Prod.ext built rfl)
    Moment.stamp_leap_day Moment.genuine_leap_day timed
  have filed := stored [] [] (Record.rawLines_log oneLine) rfl (by decide) (List.forall_mem_nil _)
  exact ⟨a, rows, success, Prod.ext built rfl, once filed transmitted, shown filed⟩

end RangeTest
