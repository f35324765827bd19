import RangeTest.Proofs.Export.Untimed
import RangeTest.Proofs.Log.Editing
import RangeTest.Proofs.Loss.Proportion

namespace RangeTest

/-- Two lines that are the same, or that are tagged and differ in the text in front of the first tag
only. -/
inductive RawLine.DifferInLead (tag : String) : RawLine → RawLine → Prop
  | same (line : RawLine) : DifferInLead tag line line
  | lead {lead other rest : List Char} : Text.FirstMark tag.toList lead rest →
      Text.FirstMark tag.toList other rest →
      DifferInLead tag (.ok (.ofList (lead ++ tag.toList ++ rest)))
        (.ok (.ofList (other ++ tag.toList ++ rest)))

/-- Two lines of which the same is read but for the capture time. -/
def LogSettings.ReadAlike (settings : LogSettings) (line other : RawLine) : Prop :=
  Except.Alike LineReading.Alike (settings.reading line) (settings.reading other)

/-- Two analyses that are the same but for the capture times. -/
structure Analysis.Alike (a b : Analysis) : Prop where
  correlator : a.correlator.untimed = b.correlator.untimed
  duplicates : a.correlator.duplicates = b.correlator.duplicates
  rxCounters : a.rxCounters = b.rxCounters
  txCounters : a.txCounters = b.txCounters
  links : a.links = b.links

section
variable {settings : LogSettings} {line other : RawLine}

theorem RawLine.DifferInLead.readAlike (differ : DifferInLead settings.tag line other) :
    settings.ReadAlike line other := by
  cases differ with
  | same =>
    rw [LogSettings.ReadAlike]
    cases settings.reading line with
    | error cause => exact .error cause
    | ok reading => exact .ok (.refl reading)
  | lead first firstOther => exact .ok (Record.ofLine_alike first firstOther)

theorem LogSettings.ReadAlike.bad_iff (alike : settings.ReadAlike line other) :
    settings.Bad line ↔ settings.Bad other := by
  rw [ReadAlike] at alike
  rw [Bad, Bad]
  generalize settings.reading line = result at alike ⊢
  generalize settings.reading other = otherResult at alike ⊢
  cases alike with
  | error => rfl
  | ok alike => cases alike <;> rfl

theorem LogSettings.ReadAlike.refuses {source : String} {before : Nat} {error : LoadError}
    (alike : settings.ReadAlike line other) (refused : settings.Refuses source before other error) :
    settings.Refuses source before line error := by
  rw [ReadAlike] at alike
  cases refused with
  | unreadable read =>
    rw [read] at alike
    generalize reading : settings.reading line = result at alike
    cases alike
    exact .unreadable reading
  | malformed read strict =>
    rw [read] at alike
    generalize reading : settings.reading line = result at alike
    cases alike with
    | ok alike =>
      cases alike
      exact .malformed reading strict

theorem LogSettings.ReadAlike.record? (alike : settings.ReadAlike line other) :
    Option.Rel (fun r otherRecord => r.untimed = otherRecord.untimed)
      (settings.record? line) (settings.record? other) := by
  rw [ReadAlike] at alike
  rw [LogSettings.record?, LogSettings.record?]
  generalize settings.reading line = result at alike ⊢
  generalize settings.reading other = otherResult at alike ⊢
  cases alike with
  | error => exact .none
  | ok alike =>
    cases alike with
    | matched same => exact .some same
    | skipped => exact .none
    | malformed => exact .none

theorem LogSettings.ReadAlike.tally (alike : settings.ReadAlike line other) :
    settings.tally [line] = settings.tally [other] := by
  rw [ReadAlike] at alike
  simp only [LogSettings.tally, List.countP_singleton]
  generalize settings.reading line = result at alike ⊢
  generalize settings.reading other = otherResult at alike ⊢
  cases alike with
  | error => rfl
  | ok alike => cases alike <;> rfl

end

section
variable {settings : LogSettings} {lines others : List RawLine}

theorem LogSettings.tally_alike (alike : List.Forall₂ settings.ReadAlike lines others) :
    settings.tally lines = settings.tally others := by
  induction alike with
  | nil => rfl
  | @cons line other lines others first _ ih =>
    rw [← List.singleton_append (l := lines), ← List.singleton_append (l := others), tally_append,
      tally_append, first.tally, ih]

theorem LogSettings.sound_alike (alike : List.Forall₂ settings.ReadAlike lines others)
    (sound : ∀ line ∈ others, ¬ settings.Bad line) : ∀ line ∈ lines, ¬ settings.Bad line := by
  induction alike with
  | nil => exact sound
  | cons first _ ih =>
    rw [List.forall_mem_cons] at sound
    exact List.forall_mem_cons.2 ⟨mt first.bad_iff.1 sound.1, ih sound.2⟩

theorem LogSettings.records_alike (alike : List.Forall₂ settings.ReadAlike lines others) :
    (lines.filterMap settings.record?).map Record.untimed =
      (others.filterMap settings.record?).map Record.untimed := by
  have records := List.rel_filterMap (R := settings.ReadAlike) (fun _ _ => ReadAlike.record?) alike
  exact map_eq_map_iff_forall₂.2 records

/-- The first bad lines of two logs that read alike stand in the same place. -/
theorem LogSettings.firstBad_alike {source : String} {before after : List RawLine} {line : RawLine}
    {error : LoadError}
    (alike : List.Forall₂ settings.ReadAlike lines (before ++ line :: after))
    (first : settings.FirstBad source before line error) :
    ∃ earlier here later, lines = earlier ++ here :: later ∧
      settings.FirstBad source earlier here error := by
  have front := List.forall₂_take_append _ _ _ alike
  have back := List.forall₂_drop_append _ _ _ alike
  obtain ⟨here, later, same, _, dropped⟩ := List.forall₂_cons_right_iff.1 back
  refine ⟨lines.take before.length, here, later, ?_, sound_alike front first.sound, ?_⟩
  · rw [← dropped, List.take_append_drop]
  · rw [front.length_eq]
    exact same.refuses first.refused

end

section
variable {rxSettings txSettings : LogSettings} {rx tx otherRx otherTx : List RawLine}

theorem Analysis.StopsAt.alike {rxName txName : String} {error : LoadError}
    (alikeRx : List.Forall₂ rxSettings.ReadAlike rx otherRx)
    (alikeTx : List.Forall₂ txSettings.ReadAlike tx otherTx)
    (stops : StopsAt rxName txName rxSettings txSettings otherRx otherTx error) :
    StopsAt rxName txName rxSettings txSettings rx tx error := by
  cases stops with
  | received first =>
    obtain ⟨_, _, _, rfl, first⟩ := LogSettings.firstBad_alike alikeRx first
    exact .received first
  | transmitted sound first =>
    obtain ⟨_, _, _, rfl, first⟩ := LogSettings.firstBad_alike alikeTx first
    exact .transmitted (LogSettings.sound_alike alikeRx sound) first

theorem Intake.map_untimed_logs (received transmitted : List Record) :
    (logs received transmitted).map untimed =
      logs (received.map Record.untimed) (transmitted.map Record.untimed) := by
  simp [logs, Function.comp_def, untimed]

/-- Two logs that read alike come to analyses that are alike, or to the same error. -/
theorem Analysis.correlate_alike (rxName txName : String)
    (alikeRx : List.Forall₂ rxSettings.ReadAlike rx otherRx)
    (alikeTx : List.Forall₂ txSettings.ReadAlike tx otherTx) :
    Except.Alike Analysis.Alike
      (correlate (.start rxName rxSettings rx) (.start txName txSettings tx)).1
      (correlate (.start rxName rxSettings otherRx) (.start txName txSettings otherTx)).1 := by
  obtain ⟨soundRx, soundTx⟩ | ⟨error, stops⟩ :=
    sound_or_exists_stopsAt rxName txName rxSettings txSettings otherRx otherTx
  · rw [correlate_of_sound rxName txName soundRx soundTx,
      correlate_of_sound rxName txName (LogSettings.sound_alike alikeRx soundRx)
        (LogSettings.sound_alike alikeTx soundTx)]
    have histories : (Intake.logs (rx.filterMap rxSettings.record?)
        (tx.filterMap txSettings.record?)).map Intake.untimed =
          (Intake.logs (otherRx.filterMap rxSettings.record?)
            (otherTx.filterMap txSettings.record?)).map Intake.untimed := by
      rw [Intake.map_untimed_logs, LogSettings.records_alike alikeRx,
        LogSettings.records_alike alikeTx, ← Intake.map_untimed_logs]
    have correlators := congrArg Correlator.run histories
    rw [Correlator.run_untimed, Correlator.run_untimed] at correlators
    refine .ok ⟨correlators, congrArg (·.duplicates) correlators,
      LogSettings.tally_alike alikeRx, LogSettings.tally_alike alikeTx, ?_⟩
    rw [← Correlator.summaries_untimed, correlators, Correlator.summaries_untimed]
  · rw [stops.correlate_eq, (stops.alike alikeRx alikeTx).correlate_eq]
    exact .error error

end

/-- The text in front of the first tag of a line shows in the cells under `Timestamp` and nowhere
else. -/
theorem Analysis.leads_show_under_timestamp (rxName txName : String)
    (rxSettings txSettings : LogSettings) {rx tx otherRx otherTx : ByteArray}
    (differRx : List.Forall₂ (RawLine.DifferInLead rxSettings.tag) (Text.rawLines rx)
      (Text.rawLines otherRx))
    (differTx : List.Forall₂ (RawLine.DifferInLead txSettings.tag) (Text.rawLines tx)
      (Text.rawLines otherTx)) :
    Except.Alike
      (fun a b => a.Alike b ∧
        ∀ (σ : Type) (resolver : Option (Resolver σ)) (lengthField : UInt32),
          Act.Alike (List.Forall₂ (Row.AgreesBut "Timestamp")) (a.rows resolver lengthField)
            (b.rows resolver lengthField))
      (correlate (.start rxName rxSettings (Text.rawLines rx))
        (.start txName txSettings (Text.rawLines tx))).1
      (correlate (.start rxName rxSettings (Text.rawLines otherRx))
        (.start txName txSettings (Text.rawLines otherTx))).1 := by
  have alikeRx := differRx.imp fun _ _ => RawLine.DifferInLead.readAlike
  have alikeTx := differTx.imp fun _ _ => RawLine.DifferInLead.readAlike
  have outcome := correlate_alike rxName txName alikeRx alikeTx
  generalize (correlate (.start rxName rxSettings (Text.rawLines rx)) _).1 = left at outcome ⊢
  generalize (correlate (.start rxName rxSettings (Text.rawLines otherRx)) _).1 = right
    at outcome ⊢
  cases outcome with
  | error error => exact .error error
  | ok alike =>
    exact .ok ⟨alike, fun _ resolver lengthField =>
      rows_alike alike.correlator alike.links resolver lengthField⟩

/-- The line of a record with some text in front of the tag. -/
def Record.lineBehind (lead : String) (r : Record) : List Char :=
  lead.toList ++ "csv-log: ".toList ++ (r.payload ++ ['\n'])

/-- A log of one such line. -/
def Record.log (lead : String) (r : Record) : ByteArray :=
  (Text.encode (r.lineBehind lead)).toByteArray

theorem Record.rawLines_log {lead : String} {r : Record}
    (oneLine : '\n' ∉ lead.toList ++ "csv-log: ".toList ++ r.payload) :
    Text.rawLines (r.log lead) = [.ok (.ofList (r.lineBehind lead))] := by
  have found := Text.rawLines_encode (List.forall_mem_singleton.2 oneLine)
  rw [List.flatMap_singleton, List.map_singleton, List.append_assoc _ r.payload] at found
  exact found

theorem LogReader.readAll_log {source lead : String} {r record : Record}
    (oneLine : '\n' ∉ lead.toList ++ "csv-log: ".toList ++ r.payload)
    (read : Record.ofLine "csv-log: " (.ofList (r.lineBehind lead)) = .matched record) :
    (start source .default (Text.rawLines (r.log lead))).readAll.1 = .ok [record] := by
  have matched : List.Forall₂
      (fun line record => Record.ofLine LogSettings.default.tag line = .matched record)
      [String.ofList (r.lineBehind lead)] [record] := .cons read .nil
  rw [Record.rawLines_log oneLine]
  exact readAll_of_matched matched

/-- What comes of one packet that `A` received from `B`, with some text in front of the tag. -/
theorem Analysis.correlate_lead {lead : String} {record : Record}
    (oneLine : '\n' ∉ lead.toList ++ "csv-log: ".toList ++ (Record.sample 1 "A").payload)
    (read : Record.ofLine "csv-log: " (.ofList ((Record.sample 1 "A").lineBehind lead)) =
      .matched record) :
    ∃ a, (correlate (.start "rx" .default (Text.rawLines ((Record.sample 1 "A").log lead)))
        (.start "tx" .default (Text.rawLines ((Record.sample 1 "B").log "")))).1 = .ok a ∧
      a.correlator = .run (Intake.logs [record] [.sample 1 "B"]) := by
  have sentLine : '\n' ∉ "".toList ++ "csv-log: ".toList ++ (Record.sample 1 "B").payload := by
    decide
  have sent : Record.ofLine "csv-log: " (.ofList ((Record.sample 1 "B").lineBehind "")) =
      .matched (.sample 1 "B") := by
    have ended : String.ofList ((Record.sample 1 "B").lineBehind "") =
        (Record.sample 1 "B").line "csv-log: " ++ String.ofList ['\n'] := by
      rw [Record.line, ← String.ofList_append, List.append_assoc]
      rfl
    rw [ended, Record.ofLine_append_blank (List.forall_mem_singleton.2 (by decide))]
    exact Record.ofLine_sample 1 (by simp)
  obtain ⟨a, success, correlated, _⟩ := correlate_of_readAll
    (LogReader.readAll_log oneLine read) (LogReader.readAll_log sentLine sent)
  exact ⟨a, success, correlated⟩

/-- A capture time stands in front of the tag in one log, and half a tag in the other. -/
theorem Analysis.leads_show_under_timestamp_sample : ∃ a b,
    (correlate
      (.start "rx" .default (Text.rawLines ((Record.sample 1 "A").log "2019-12-11T10:20:30 | ")))
      (.start "tx" .default (Text.rawLines ((Record.sample 1 "B").log "")))).1 = .ok a ∧
    (correlate
      (.start "rx" .default (Text.rawLines ((Record.sample 1 "A").log "csv-lo, ")))
      (.start "tx" .default (Text.rawLines ((Record.sample 1 "B").log "")))).1 = .ok b ∧
    (a.correlator.packets .received "A" "B" "GFSK").map (·.capturedAt.isSome) = [true] ∧
    (b.correlator.packets .received "A" "B" "GFSK").map (·.capturedAt.isSome) = [false] ∧
    a.Alike b ∧
    ∀ (σ : Type) (resolver : Option (Resolver σ)) (lengthField : UInt32),
      Act.Alike (List.Forall₂ (Row.AgreesBut "Timestamp")) (a.rows resolver lengthField)
        (b.rows resolver lengthField) := by
  have oneLine : ∀ lead ∈ ["2019-12-11T10:20:30 | ", "csv-lo, "],
      '\n' ∉ lead.toList ++ "csv-log: ".toList ++ (Record.sample 1 "A").payload := by
    decide +kernel
  have cuts : ∀ lead ∈ ["2019-12-11T10:20:30 | ", "csv-lo, "],
      Text.cut? "csv-log: ".toList ((Record.sample 1 "A").lineBehind lead) =
        some (lead.toList, (Record.sample 1 "A").payload ++ ['\n']) := by
    decide +kernel
  have timed : Record.ofLine "csv-log: "
      (.ofList ((Record.sample 1 "A").lineBehind "2019-12-11T10:20:30 | ")) = .matched
        { Record.sample 1 "A" with capturedAt := some ⟨2019, 12, 11, 10, 20, 30, 0⟩ } := by
    simp only [Record.ofLine, String.toList_ofList]
    decide +kernel
  have bare : Record.ofLine "csv-log: " (.ofList ((Record.sample 1 "A").lineBehind "csv-lo, ")) =
      .matched { Record.sample 1 "A" with capturedAt := none } := by
    simp only [Record.ofLine, String.toList_ofList]
    decide +kernel
  obtain ⟨a, success, correlated⟩ := correlate_lead (oneLine _ (by simp)) timed
  obtain ⟨b, otherSuccess, otherCorrelated⟩ := correlate_lead (oneLine _ (by simp)) bare
  have differ : List.Forall₂ (RawLine.DifferInLead "csv-log: ")
      (Text.rawLines ((Record.sample 1 "A").log "2019-12-11T10:20:30 | "))
      (Text.rawLines ((Record.sample 1 "A").log "csv-lo, ")) := by
    rw [Record.rawLines_log (oneLine _ (by simp)), Record.rawLines_log (oneLine _ (by simp))]
    exact .cons (.lead (Text.firstMark_of_cut? (cuts _ (by simp)))
      (Text.firstMark_of_cut? (cuts _ (by simp)))) .nil
  have unchanged : List.Forall₂ (RawLine.DifferInLead "csv-log: ")
      (Text.rawLines ((Record.sample 1 "B").log ""))
      (Text.rawLines ((Record.sample 1 "B").log "")) :=
    List.forall₂_same.2 fun line _ => .same line
  have alike := leads_show_under_timestamp "rx" "tx" .default .default differ unchanged
  rw [success, otherSuccess] at alike
  cases alike with
  | ok alike =>
    refine ⟨a, b, success, otherSuccess, ?_, ?_, alike.1, alike.2⟩
    · rw [correlated]
      decide +kernel
    · rw [otherCorrelated]
      decide +kernel

end RangeTest
