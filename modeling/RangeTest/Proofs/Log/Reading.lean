import Mathlib.Data.List.Forall2
import RangeTest.Log.Reader

namespace RangeTest

/-- What is read in a line. -/
def LogSettings.reading (settings : LogSettings) (line : RawLine) : Except IoError LineReading :=
  line.map (Record.ofLine settings.tag)

def LogSettings.record? (settings : LogSettings) (line : RawLine) : Option Record :=
  match settings.reading line with
  | .ok (.matched record) => some record
  | _ => none

theorem LogSettings.reading_ok (settings : LogSettings) (line : String) :
    settings.reading (.ok line) = .ok (Record.ofLine settings.tag line) :=
  rfl

theorem LogSettings.record?_ok (settings : LogSettings) (line : String) :
    settings.record? (.ok line) =
      match Record.ofLine settings.tag line with
      | .matched record => some record
      | _ => none := by
  rw [record?, reading_ok]
  cases Record.ofLine settings.tag line <;> rfl

/-- How many of some lines are of which kind. -/
def LogSettings.tally (settings : LogSettings) (lines : List RawLine) : Counters where
  matched := lines.countP (settings.reading · matches .ok (.matched _))
  skipped := lines.countP (settings.reading · matches .ok .skipped)
  malformed := lines.countP (settings.reading · matches .ok (.malformed _))

theorem LogSettings.tally_ok (settings : LogSettings) (line : String) :
    settings.tally [.ok line] =
      match Record.ofLine settings.tag line with
      | .matched _ => { matched := 1 }
      | .skipped => { skipped := 1 }
      | .malformed _ => { malformed := 1 } := by
  cases reading : Record.ofLine settings.tag line with
  | matched record => simp [tally, reading_ok, reading]
  | skipped => simp [tally, reading_ok, reading]
  | malformed fault => simp [tally, reading_ok, reading]

/-- Counts that are added up kind by kind. -/
def Counters.plus (c d : Counters) : Counters where
  matched := c.matched + d.matched
  skipped := c.skipped + d.skipped
  malformed := c.malformed + d.malformed

theorem Counters.plus_assoc (c d e : Counters) : (c.plus d).plus e = c.plus (d.plus e) := by
  simp only [plus, Nat.add_assoc]

theorem Counters.lines_plus (c d : Counters) : (c.plus d).lines = c.lines + d.lines := by
  simp only [plus, lines]
  omega

theorem Counters.zero_plus (c : Counters) : plus {} c = c := by
  simp only [plus, Nat.zero_add]

theorem LogSettings.tally_append (settings : LogSettings) (lines others : List RawLine) :
    settings.tally (lines ++ others) = (settings.tally lines).plus (settings.tally others) := by
  simp only [tally, Counters.plus, List.countP_append]

theorem LogSettings.matched_tally (settings : LogSettings) (lines : List RawLine) :
    (settings.tally lines).matched = (lines.filterMap settings.record?).length := by
  rw [List.length_filterMap_eq_countP, tally]
  refine List.countP_congr fun line _ => ?_
  rw [record?]
  cases settings.reading line with
  | error cause => simp
  | ok reading => cases reading <;> simp

/-- Every line that can be decoded is of one kind. -/
theorem LogSettings.lines_tally (settings : LogSettings) (lines : List RawLine) :
    (settings.tally lines).lines = lines.countP (·.isOk) := by
  induction lines with
  | nil => rfl
  | cons line lines ih =>
    have here : (settings.tally [line]).lines = [line].countP (·.isOk) := by
      cases line with
      | error cause => rfl
      | ok line =>
        rw [tally_ok]
        cases Record.ofLine settings.tag line <;> rfl
    rw [← List.singleton_append, tally_append, Counters.lines_plus, here, ih, List.countP_append]

section
variable {feed : σ → Record → σ × List Notice} {state : σ} {r other : LogReader}

theorem LogReader.drain_of_error {error : LoadError} (stopped : r.next.result = .error error) :
    r.drain feed state = (.error error, r.next.notices, r.next.reader) := by
  unfold drain
  split <;> rename_i outcome <;> rw [stopped] at outcome <;> cases outcome
  rfl

theorem LogReader.drain_of_none (ended : r.next.result = .ok none) :
    r.drain feed state = (.ok state, r.next.notices, r.next.reader) := by
  unfold drain
  split <;> rename_i outcome <;> rw [ended] at outcome <;> cases outcome

theorem LogReader.drain_of_some {record : Record} (read : r.next.result = .ok (some record)) :
    r.drain feed state =
      let (fed, heard) := feed state record
      let (result, later, last) := r.next.reader.drain feed fed
      (result, r.next.notices ++ heard ++ later, last) := by
  rw [drain]
  split <;> rename_i outcome <;> rw [read] at outcome <;> cases outcome
  rfl

/-- Where a step differs from another by one notice in front, so do the readings that it begins. -/
theorem LogReader.drain_of_noticed {notice : Notice}
    (noticed : r.next = { other.next with notices := notice :: other.next.notices }) :
    r.drain feed state =
      let (result, later, last) := other.drain feed state
      (result, notice :: later, last) := by
  have result : r.next.result = other.next.result := by rw [noticed]
  cases came : other.next.result with
  | error error => rw [drain_of_error came, drain_of_error (result.trans came), noticed]
  | ok record =>
    cases record with
    | none => rw [drain_of_none came, drain_of_none (result.trans came), noticed]
    | some record =>
      rw [drain_of_some came, drain_of_some (result.trans came), noticed]
      rfl

theorem LogReader.drain_congr (same : r.next = other.next) :
    r.drain feed state = other.drain feed state := by
  cases came : other.next.result with
  | error error =>
    rw [drain_of_error came, drain_of_error (same ▸ came), same]
  | ok record =>
    cases record with
    | none => rw [drain_of_none came, drain_of_none (same ▸ came), same]
    | some record => rw [drain_of_some came, drain_of_some (same ▸ came), same]

end

/-- Feeding a consumer while reading comes to the same as collecting the records first. -/
theorem LogReader.drain_eq_foldl_collected (feed : σ → Record → σ × List Notice) (start : σ)
    (collected : List Record) (r : LogReader) :
    (r.drain feed (collected.reverse.foldl (fun state record => (feed state record).1) start)).1 =
      (r.drain (fun records record => (record :: records, [])) collected).1.map
        (·.reverse.foldl (fun state record => (feed state record).1) start) := by
  fun_induction drain (fun records record => (record :: records, [])) collected r with
  | case1 collected r error stopped => exact congrArg Prod.fst (drain_of_error stopped)
  | case2 collected r ended => exact congrArg Prod.fst (drain_of_none ended)
  | case3 collected r record read fed heard step result later last rest ih =>
    cases step
    rw [drain_of_some read]
    rw [rest] at ih
    simpa using ih

/-- What becomes of a consumer that is fed while a log is read: all records of the log are fed to
it, in their order, unless an error stops the reader. -/
theorem LogReader.drain_eq_foldl (feed : σ → Record → σ × List Notice) (state : σ) (r : LogReader) :
    (r.drain feed state).1 =
      r.readAll.1.map (·.foldl (fun state record => (feed state record).1) state) := by
  refine (drain_eq_foldl_collected feed state [] r).trans ?_
  rw [readAll]
  cases r.drain (fun records record => (record :: records, [])) [] with
  | mk result rest => cases result <;> rfl

theorem LogReader.drain_ok_iff {feed : σ → Record → σ × List Notice} {state final : σ}
    {r : LogReader} : (r.drain feed state).1 = .ok final ↔ ∃ records, r.readAll.1 = .ok records ∧
      records.foldl (fun state record => (feed state record).1) state = final := by
  rw [drain_eq_foldl]
  cases r.readAll.1 <;> simp [Except.map]

section
variable {feed : σ → Record → σ × List Notice} {state : σ} {source : String}
  {settings : LogSettings} {number : Nat} {counters : Counters} {rest : List RawLine}

theorem LogReader.drain_nil : drain feed state ⟨source, settings, [], number, counters⟩ =
    (.ok state, [], ⟨source, settings, [], number, counters⟩) :=
  drain_of_none rfl

theorem LogReader.drain_unreadable {cause : IoError} :
    drain feed state ⟨source, settings, .error cause :: rest, number, counters⟩ =
      (.error (.unreadable source number cause), [],
        ⟨source, settings, rest, number, counters⟩) :=
  drain_of_error rfl

section
variable {line : String}

theorem LogReader.drain_matched {record : Record}
    (reading : Record.ofLine settings.tag line = .matched record) :
    drain feed state ⟨source, settings, .ok line :: rest, number, counters⟩ =
      let (result, later, last) := drain feed (feed state record).1
        ⟨source, settings, rest, number + 1, { counters with matched := counters.matched + 1 }⟩
      (result, (feed state record).2 ++ later, last) := by
  rw [drain_of_some (by rw [next_matched reading]), next_matched reading]
  rfl

theorem LogReader.drain_skipped (reading : Record.ofLine settings.tag line = .skipped) :
    drain feed state ⟨source, settings, .ok line :: rest, number, counters⟩ =
      drain feed state ⟨source, settings, rest, number + 1,
        { counters with skipped := counters.skipped + 1 }⟩ :=
  drain_congr (next_skipped reading)

theorem LogReader.drain_refused {fault : RecordFault}
    (reading : Record.ofLine settings.tag line = .malformed fault)
    (strict : settings.skipMalformed = false) :
    drain feed state ⟨source, settings, .ok line :: rest, number, counters⟩ =
      (.error (.malformed source (number + 1) fault), [], ⟨source, settings, rest, number + 1,
        { counters with malformed := counters.malformed + 1 }⟩) := by
  rw [drain_of_error (by rw [next_refused reading strict]), next_refused reading strict]

theorem LogReader.drain_passedOver {fault : RecordFault}
    (reading : Record.ofLine settings.tag line = .malformed fault)
    (lenient : settings.skipMalformed = true) :
    drain feed state ⟨source, settings, .ok line :: rest, number, counters⟩ =
      let (result, later, last) := drain feed state ⟨source, settings, rest, number + 1,
        { counters with malformed := counters.malformed + 1 }⟩
      (result, .malformedSkipped source (number + 1) fault :: later, last) :=
  drain_of_noticed (next_passedOver reading lenient)

end

theorem LogReader.drain_of_matched {lines : List String} {records : List Record}
    (matched : List.Forall₂ (fun line record => Record.ofLine settings.tag line = .matched record)
      lines records) :
    (drain feed state ⟨source, settings, lines.map .ok, number, counters⟩).1 =
      .ok (records.foldl (fun state record => (feed state record).1) state) := by
  induction matched generalizing state number counters with
  | nil => exact congrArg Prod.fst drain_nil
  | @cons line record lines records first _ ih =>
    rw [List.map_cons, drain_matched first]
    exact ih

end

/-- A log in which every line is a record is read to its end. -/
theorem LogReader.readAll_of_matched {source : String} {settings : LogSettings}
    {lines : List String} {records : List Record}
    (matched : List.Forall₂ (fun line record => Record.ofLine settings.tag line = .matched record)
      lines records) :
    (start source settings (lines.map .ok)).readAll.1 = .ok records := by
  rw [readAll, start]
  simp [drain_of_matched matched, Except.map]

end RangeTest
