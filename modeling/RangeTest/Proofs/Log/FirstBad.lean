import RangeTest.Proofs.Log.Correlation

namespace RangeTest

/-- A line is bad if it cannot be decoded or if, unless these are passed over, it is malformed. -/
def LogSettings.Bad (settings : LogSettings) (line : RawLine) : Prop :=
  match settings.reading line with
  | .error _ => True
  | .ok (.malformed _) => settings.skipMalformed = false
  | .ok _ => False

/-- The error of a bad line that has a number of lines before it. -/
inductive LogSettings.Refuses (settings : LogSettings) (source : String) (before : Nat)
    (line : RawLine) : LoadError → Prop
  | unreadable {cause : IoError} : settings.reading line = .error cause →
      Refuses settings source before line (.unreadable source before cause)
  | malformed {fault : RecordFault} : settings.reading line = .ok (.malformed fault) →
      settings.skipMalformed = false →
      Refuses settings source before line (.malformed source (before + 1) fault)

/-- A bad line behind others that are not, and its error. -/
structure LogSettings.FirstBad (settings : LogSettings) (source : String) (before : List RawLine)
    (line : RawLine) (error : LoadError) : Prop where
  sound : ∀ other ∈ before, ¬ settings.Bad other
  refused : settings.Refuses source before.length line error

section
variable {settings : LogSettings} {source : String} {before : Nat} {line : RawLine}

theorem LogSettings.bad_iff_exists_refuses :
    settings.Bad line ↔ ∃ error, settings.Refuses source before line error := by
  constructor
  · intro bad
    cases read : settings.reading line with
    | error cause => exact ⟨_, .unreadable read⟩
    | ok reading =>
      rw [Bad, read] at bad
      cases reading with
      | malformed fault => exact ⟨_, .malformed read bad⟩
      | matched _ => exact bad.elim
      | skipped => exact bad.elim
  · rintro ⟨error, refused⟩
    cases refused with
    | unreadable read => rw [Bad, read]; trivial
    | malformed read strict => rw [Bad, read]; exact strict

/-- Where no line is bad, each line counts. -/
theorem LogSettings.lines_tally_of_sound {lines : List RawLine}
    (sound : ∀ line ∈ lines, ¬ settings.Bad line) :
    (settings.tally lines).lines = lines.length := by
  rw [lines_tally, List.countP_eq_length]
  intro line member
  cases line with
  | error cause => exact absurd trivial (sound _ member)
  | ok line => rfl

/-- A log either has no bad line or a first one. -/
theorem LogSettings.sound_or_exists_firstBad (settings : LogSettings) (source : String)
    (lines : List RawLine) : (∀ line ∈ lines, ¬ settings.Bad line) ∨
      ∃ before line after error, lines = before ++ line :: after ∧
        settings.FirstBad source before line error := by
  classical
  cases found : lines.find? (decide <| settings.Bad ·) with
  | none => exact Or.inl (by simpa using found)
  | some line =>
    obtain ⟨bad, before, after, rfl, sound⟩ := List.find?_eq_some_iff_append.1 found
    obtain ⟨error, refused⟩ := bad_iff_exists_refuses.1 (of_decide_eq_true bad)
    exact Or.inr ⟨before, line, after, error, rfl, by simpa using sound, refused⟩

end

section
variable (feed : σ → Record → σ × List Notice) (state : σ) (source : String)
  {settings : LogSettings} (number : Nat) (counters : Counters) (rest : List RawLine)

/-- What comes of a line that is not bad: its record, if it holds one, is fed, and it is counted. -/
theorem LogReader.drain_sound_cons {line : RawLine} (sound : ¬ settings.Bad line) :
    let whole := drain feed state ⟨source, settings, line :: rest, number, counters⟩
    let later := drain feed
      ((settings.record? line).toList.foldl (fun state record => (feed state record).1) state)
      ⟨source, settings, rest, number + 1, counters.plus (settings.tally [line])⟩
    whole.1 = later.1 ∧ whole.2.2 = later.2.2 := by
  cases line with
  | error cause => exact absurd trivial sound
  | ok line =>
    rw [LogSettings.record?_ok, LogSettings.tally_ok]
    cases reading : Record.ofLine settings.tag line with
    | matched record =>
      rw [drain_matched reading]
      exact ⟨rfl, rfl⟩
    | skipped =>
      rw [drain_skipped reading]
      exact ⟨rfl, rfl⟩
    | malformed fault =>
      have lenient : settings.skipMalformed = true := by
        simpa [LogSettings.Bad, LogSettings.reading_ok, reading] using sound
      rw [drain_passedOver reading lenient]
      exact ⟨rfl, rfl⟩

theorem LogReader.drain_sound_append {before : List RawLine}
    (sound : ∀ line ∈ before, ¬ settings.Bad line) :
    let whole := drain feed state ⟨source, settings, before ++ rest, number, counters⟩
    let later := drain feed
      ((before.filterMap settings.record?).foldl (fun state record => (feed state record).1) state)
      ⟨source, settings, rest, number + before.length, counters.plus (settings.tally before)⟩
    whole.1 = later.1 ∧ whole.2.2 = later.2.2 := by
  induction before generalizing state number counters with
  | nil => exact ⟨rfl, rfl⟩
  | cons line before ih =>
    rw [List.forall_mem_cons] at sound
    have records : (line :: before).filterMap settings.record? =
        (settings.record? line).toList ++ before.filterMap settings.record? := by
      rw [List.filterMap_cons]
      cases settings.record? line <;> rfl
    have below : number + (line :: before).length = number + 1 + before.length := by
      rw [List.length_cons]
      omega
    have first := drain_sound_cons feed state source number counters (before ++ rest) sound.1
    have others := ih ((settings.record? line).toList.foldl
      (fun state record => (feed state record).1) state) (number + 1)
      (counters.plus (settings.tally [line])) sound.2
    rw [records, below, List.foldl_append, ← List.singleton_append (l := before),
      LogSettings.tally_append, ← Counters.plus_assoc]
    exact ⟨first.1.trans others.1, first.2.trans others.2⟩

/-- A log without a bad line is read to its end, and each of its lines is counted. -/
theorem LogReader.drain_of_sound {lines : List RawLine}
    (sound : ∀ line ∈ lines, ¬ settings.Bad line) :
    ∃ notices, drain feed state (start source settings lines) =
      (.ok ((lines.filterMap settings.record?).foldl (fun state record => (feed state record).1)
          state), notices, ⟨source, settings, [], lines.length, settings.tally lines⟩) := by
  have whole := drain_sound_append feed state source 0 {} [] sound
  rw [drain_nil, List.append_nil, Counters.zero_plus, Nat.zero_add] at whole
  exact ⟨(drain feed state (start source settings lines)).2.1,
    Prod.ext whole.1 (Prod.ext rfl whole.2)⟩

/-- A log is given up at its first bad line, by the number of which the error names it. -/
theorem LogReader.drain_of_firstBad {before : List RawLine} {line : RawLine} {error : LoadError}
    (first : settings.FirstBad source before line error) :
    (drain feed state (start source settings (before ++ line :: rest))).1 = .error error := by
  have whole := drain_sound_append feed state source 0 {} (line :: rest) first.sound
  rw [Nat.zero_add] at whole
  refine whole.1.trans ?_
  have refused := first.refused
  cases line with
  | error cause =>
    rw [drain_unreadable]
    cases refused with
    | unreadable read =>
      cases read
      rfl
    | malformed read _ => cases read
  | ok line =>
    cases refused with
    | unreadable read => cases read
    | malformed read strict =>
      rw [drain_refused (Except.ok.inj read) strict]

end

/-- What two logs without a bad line come to. -/
theorem Analysis.correlate_of_sound (rxName txName : String) {rxSettings txSettings : LogSettings}
    {rx tx : List RawLine} (soundRx : ∀ line ∈ rx, ¬ rxSettings.Bad line)
    (soundTx : ∀ line ∈ tx, ¬ txSettings.Bad line) :
    (correlate (.start rxName rxSettings rx) (.start txName txSettings tx)).1 =
      let correlator := Correlator.run
        (Intake.logs (rx.filterMap rxSettings.record?) (tx.filterMap txSettings.record?))
      .ok { correlator, rxCounters := rxSettings.tally rx, txCounters := txSettings.tally tx,
            links := correlator.summaries } := by
  obtain ⟨heard, readRx⟩ := LogReader.drain_of_sound Correlator.receive .empty rxName soundRx
  obtain ⟨more, readTx⟩ := LogReader.drain_of_sound Correlator.transmit
    ((rx.filterMap rxSettings.record?).foldl (fun c r => (c.receive r).1) .empty) txName soundTx
  rw [correlate, readRx]
  dsimp only
  rw [readTx, Correlator.run_logs_eq_foldl]
  rfl

theorem Analysis.correlate_of_bad_received {rxName : String} {rxSettings : LogSettings}
    {before after : List RawLine} {line : RawLine} {error : LoadError}
    (first : rxSettings.FirstBad rxName before line error) (tx : LogReader) :
    (correlate (.start rxName rxSettings (before ++ line :: after)) tx).1 = .error error := by
  have stopped := LogReader.drain_of_firstBad Correlator.receive .empty rxName after first
  rw [correlate]
  generalize LogReader.drain Correlator.receive .empty _ = reading at stopped
  obtain ⟨result, heard, last⟩ := reading
  cases stopped
  rfl

theorem Analysis.correlate_of_bad_transmitted {rxName txName : String}
    {rxSettings txSettings : LogSettings} {rx before after : List RawLine} {line : RawLine}
    {error : LoadError} (soundRx : ∀ line ∈ rx, ¬ rxSettings.Bad line)
    (first : txSettings.FirstBad txName before line error) :
    (correlate (.start rxName rxSettings rx)
      (.start txName txSettings (before ++ line :: after))).1 = .error error := by
  obtain ⟨heard, readRx⟩ := LogReader.drain_of_sound Correlator.receive .empty rxName soundRx
  have stopped := LogReader.drain_of_firstBad Correlator.transmit
    ((rx.filterMap rxSettings.record?).foldl (fun c r => (c.receive r).1) .empty) txName after first
  rw [correlate, readRx]
  dsimp only
  generalize LogReader.drain Correlator.transmit _ _ = reading at stopped
  obtain ⟨result, more, last⟩ := reading
  cases stopped
  rfl

/-- Where the analysis of two logs stops with an error: at the first bad line of the receive log, or
if that log has none, of the transmit log. -/
inductive Analysis.StopsAt (rxName txName : String) (rxSettings txSettings : LogSettings) :
    List RawLine → List RawLine → LoadError → Prop
  | received {before after tx : List RawLine} {line : RawLine} {error : LoadError} :
      rxSettings.FirstBad rxName before line error →
      StopsAt rxName txName rxSettings txSettings (before ++ line :: after) tx error
  | transmitted {rx before after : List RawLine} {line : RawLine} {error : LoadError} :
      (∀ other ∈ rx, ¬ rxSettings.Bad other) → txSettings.FirstBad txName before line error →
      StopsAt rxName txName rxSettings txSettings rx (before ++ line :: after) error

section
variable {rxName txName : String} {rxSettings txSettings : LogSettings} {rx tx : List RawLine}

theorem Analysis.StopsAt.correlate_eq {error : LoadError}
    (stops : StopsAt rxName txName rxSettings txSettings rx tx error) :
    (correlate (.start rxName rxSettings rx) (.start txName txSettings tx)).1 = .error error := by
  cases stops with
  | received first => exact correlate_of_bad_received first _
  | transmitted sound first => exact correlate_of_bad_transmitted sound first

theorem Analysis.sound_or_exists_stopsAt (rxName txName : String)
    (rxSettings txSettings : LogSettings) (rx tx : List RawLine) :
    ((∀ line ∈ rx, ¬ rxSettings.Bad line) ∧ ∀ line ∈ tx, ¬ txSettings.Bad line) ∨
      ∃ error, StopsAt rxName txName rxSettings txSettings rx tx error := by
  obtain soundRx | ⟨before, line, after, error, rfl, first⟩ :=
    rxSettings.sound_or_exists_firstBad rxName rx
  · obtain soundTx | ⟨before, line, after, error, rfl, first⟩ :=
      txSettings.sound_or_exists_firstBad txName tx
    · exact Or.inl ⟨soundRx, soundTx⟩
    · exact Or.inr ⟨error, .transmitted soundRx first⟩
  · exact Or.inr ⟨error, .received first⟩

theorem Analysis.correlate_ok_iff :
    (∃ a, (correlate (.start rxName rxSettings rx) (.start txName txSettings tx)).1 = .ok a) ↔
      (∀ line ∈ rx, ¬ rxSettings.Bad line) ∧ ∀ line ∈ tx, ¬ txSettings.Bad line := by
  refine ⟨fun ⟨a, success⟩ => ?_,
    fun ⟨soundRx, soundTx⟩ => ⟨_, correlate_of_sound rxName txName soundRx soundTx⟩⟩
  refine (sound_or_exists_stopsAt rxName txName rxSettings txSettings rx tx).resolve_right ?_
  rintro ⟨error, stops⟩
  rw [stops.correlate_eq] at success
  cases success

theorem Analysis.correlate_error_iff {error : LoadError} :
    (correlate (.start rxName rxSettings rx) (.start txName txSettings tx)).1 = .error error ↔
      StopsAt rxName txName rxSettings txSettings rx tx error := by
  refine ⟨fun failure => ?_, StopsAt.correlate_eq⟩
  obtain ⟨soundRx, soundTx⟩ | ⟨other, stops⟩ :=
    sound_or_exists_stopsAt rxName txName rxSettings txSettings rx tx
  · rw [correlate_of_sound rxName txName soundRx soundTx] at failure
    cases failure
  · rw [stops.correlate_eq] at failure
    cases failure
    exact stops

end

/-- The analysis of two logs fails exactly at the first bad line, that of the receive log if it has
one. The error names the line by the number of lines before it, with itself where it is malformed.
If no line is bad, the counters tell how many lines of each log are of which kind, and every line is
of one kind. -/
theorem Analysis.correlate_first_bad (rxName txName : String) (rxSettings txSettings : LogSettings)
    (rx tx : ByteArray) :
    let rxLines := Text.rawLines rx
    let txLines := Text.rawLines tx
    let outcome := (correlate (.start rxName rxSettings rxLines)
      (.start txName txSettings txLines)).1
    ((∃ a, outcome = .ok a) ↔
        (∀ line ∈ rxLines, ¬ rxSettings.Bad line) ∧ ∀ line ∈ txLines, ¬ txSettings.Bad line) ∧
      (∀ error, outcome = .error error ↔
        StopsAt rxName txName rxSettings txSettings rxLines txLines error) ∧
      ∀ a, outcome = .ok a →
        a.rxCounters = rxSettings.tally rxLines ∧ a.rxCounters.lines = rxLines.length ∧
          a.txCounters = txSettings.tally txLines ∧ a.txCounters.lines = txLines.length := by
  intro rxLines txLines outcome
  refine ⟨correlate_ok_iff, fun error => correlate_error_iff, fun a success => ?_⟩
  obtain ⟨soundRx, soundTx⟩ := correlate_ok_iff.1 ⟨a, success⟩
  have concluded := correlate_of_sound rxName txName soundRx soundTx
  cases success.symm.trans concluded
  exact ⟨rfl, LogSettings.lines_tally_of_sound soundRx, rfl, LogSettings.lines_tally_of_sound soundTx⟩

end RangeTest
