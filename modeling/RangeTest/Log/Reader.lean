import RangeTest.Notice
import RangeTest.Text.Lines

namespace RangeTest

/-- How the lines of a log are read. -/
structure LogSettings where
  /-- The mark in front of a record. -/
  tag : String
  /-- Malformed records are passed over with a notice; otherwise they are errors. -/
  skipMalformed : Bool
  deriving DecidableEq, Repr

def LogSettings.default : LogSettings where
  tag := "csv-log: "
  skipMalformed := false

inductive LoadError where
  | unreadable (source : String) (line : Nat) (cause : IoError)
  | malformed (source : String) (line : Nat) (fault : RecordFault)
  deriving DecidableEq, Repr

def LoadError.cause : LoadError → String
  | unreadable _ _ cause => cause.message
  | malformed _ _ fault => fault.message

def LoadError.message : LoadError → String
  | unreadable source line cause => s!"Failed to read {source} after line {line}: {cause.message}"
  | malformed source line fault =>
    s!"Malformed record in {source} at line {line}: {fault.message}"

structure LogReader where
  /-- The name of the log in messages. -/
  source : String
  settings : LogSettings
  pending : List RawLine
  /-- The number of the line that was read last, as errors and notices name it. -/
  lineNumber : Nat
  counters : Counters

/-- A reader in front of the first line of a log. -/
def LogReader.start (source : String) (settings : LogSettings) (lines : List RawLine) :
    LogReader where
  source
  settings
  pending := lines
  lineNumber := 0
  counters := {}

/-- What the next record turned out to be, what was noticed on the way, and the reader behind it.
There is no record at the end of the log. -/
structure LogStep where
  result : Except LoadError (Option Record)
  notices : List Notice
  reader : LogReader

/-- Reads lines up to the next record or the next error. A line that cannot be decoded is used up
but does not count. -/
def LogReader.advance (source : String) (settings : LogSettings) (lineNumber : Nat)
    (counters : Counters) : List RawLine → LogStep
  | [] => ⟨.ok none, [], ⟨source, settings, [], lineNumber, counters⟩⟩
  | .error cause :: rest =>
    ⟨.error (.unreadable source lineNumber cause), [],
      ⟨source, settings, rest, lineNumber, counters⟩⟩
  | .ok line :: rest =>
    let lineNumber := lineNumber + 1
    match Record.ofLine settings.tag line with
    | .matched record =>
      let counters := { counters with matched := counters.matched + 1 }
      ⟨.ok (some record), [], ⟨source, settings, rest, lineNumber, counters⟩⟩
    | .skipped =>
      advance source settings lineNumber { counters with skipped := counters.skipped + 1 } rest
    | .malformed fault =>
      let counters := { counters with malformed := counters.malformed + 1 }
      if settings.skipMalformed then
        let step := advance source settings lineNumber counters rest
        { step with notices := .malformedSkipped source lineNumber fault :: step.notices }
      else
        ⟨.error (.malformed source lineNumber fault), [],
          ⟨source, settings, rest, lineNumber, counters⟩⟩

def LogReader.next (r : LogReader) : LogStep :=
  advance r.source r.settings r.lineNumber r.counters r.pending

section
variable {source : String} {settings : LogSettings} {number : Nat} {counters : Counters}
  {line : String} {rest : List RawLine}

theorem LogReader.next_matched {record : Record}
    (reading : Record.ofLine settings.tag line = .matched record) :
    next ⟨source, settings, .ok line :: rest, number, counters⟩ = ⟨.ok (some record), [],
      ⟨source, settings, rest, number + 1, { counters with matched := counters.matched + 1 }⟩⟩ := by
  simp only [next, advance, reading]

theorem LogReader.next_skipped (reading : Record.ofLine settings.tag line = .skipped) :
    next ⟨source, settings, .ok line :: rest, number, counters⟩ =
      next ⟨source, settings, rest, number + 1,
        { counters with skipped := counters.skipped + 1 }⟩ := by
  simp only [next, advance, reading]

/-- Where malformed records are errors, one of them takes a step of its own. -/
theorem LogReader.next_refused {fault : RecordFault}
    (reading : Record.ofLine settings.tag line = .malformed fault)
    (strict : settings.skipMalformed = false) :
    next ⟨source, settings, .ok line :: rest, number, counters⟩ =
      ⟨.error (.malformed source (number + 1) fault), [],
        ⟨source, settings, rest, number + 1,
          { counters with malformed := counters.malformed + 1 }⟩⟩ := by
  simp only [next, advance, reading, strict]
  rfl

/-- Where malformed records are passed over, the next step gives notice of one. -/
theorem LogReader.next_passedOver {fault : RecordFault}
    (reading : Record.ofLine settings.tag line = .malformed fault)
    (lenient : settings.skipMalformed = true) :
    next ⟨source, settings, .ok line :: rest, number, counters⟩ =
      let step := next ⟨source, settings, rest, number + 1,
        { counters with malformed := counters.malformed + 1 }⟩
      { step with notices := .malformedSkipped source (number + 1) fault :: step.notices } := by
  simp only [next, advance, reading, lenient]
  rfl

end

/-- Every step but the last uses up a line. -/
theorem LogReader.advance_pending_lt {source : String} {settings : LogSettings} {number : Nat}
    {counters : Counters} {lines : List RawLine}
    (more : (advance source settings number counters lines).result ≠ .ok none) :
    (advance source settings number counters lines).reader.pending.length < lines.length := by
  fun_induction advance source settings number counters lines with
  | case1 => exact absurd rfl more
  | case2 => simp
  | case3 => simp
  | case4 _ _ _ _ _ _ ih => exact Nat.lt_succ_of_lt (ih more)
  | case5 _ _ _ _ _ _ _ _ _ _ ih => exact Nat.lt_succ_of_lt (ih more)
  | case6 => simp

/-- Hands every record to `feed` until the log ends or an error stops it. -/
def LogReader.drain (feed : σ → Record → σ × List Notice) (state : σ) (r : LogReader) :
    Except LoadError σ × List Notice × LogReader :=
  match _more : r.next.result with
  | .error error => (.error error, r.next.notices, r.next.reader)
  | .ok none => (.ok state, r.next.notices, r.next.reader)
  | .ok (some record) =>
    let (fed, heard) := feed state record
    let (result, later, last) := drain feed fed r.next.reader
    (result, r.next.notices ++ heard ++ later, last)
termination_by r.pending.length
decreasing_by exact advance_pending_lt (by rw [next] at _more; simp [_more])

/-- All records that are left in a log. -/
def LogReader.readAll (r : LogReader) : Except LoadError (List Record) × List Notice × LogReader :=
  let (result, notices, last) := r.drain (fun records record => (record :: records, [])) []
  (result.map List.reverse, notices, last)

end RangeTest
