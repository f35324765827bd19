import RangeTest.Proofs.Log.Steps

namespace RangeTest

/-- Two steps that come to the same without a malformed record on the way. -/
structure LogStep.Alike (step other : LogStep) : Prop where
  result : step.result = other.result
  clean : step.reports = []
  otherClean : other.reports = []

/-- How the steps that refuse malformed records go with those that pass them over. A record that is
refused in a step of its own belongs to the next step of the others. -/
inductive LogStep.Parallel : List LogStep → List LogStep → Prop
  | last {step other} : Alike step other → Parallel [step] [other]
  | both {step other later others} : Alike step other → Parallel later others →
      Parallel (step :: later) (other :: others)
  | refused {step later others notice} : step.refusal? = some notice → step.notices = [] →
      Parallel later others → Parallel (step :: later) (others.modifyHead (note notice))

theorem LogReader.steps_parallel (source tag : String) (number : Nat) (counters : Counters)
    (lines : List RawLine) :
    LogStep.Parallel (steps ⟨source, ⟨tag, false⟩, lines, number, counters⟩)
      (steps ⟨source, ⟨tag, true⟩, lines, number, counters⟩) := by
  -- A skipped line takes no step of its own, so the induction is on the lines. What a line reads as
  -- is said of each settings, since unification is slow to find the settings from their tag.
  induction lines generalizing number counters with
  | nil =>
    rw [steps_nil, steps_nil]
    exact .last ⟨rfl, rfl, rfl⟩
  | cons line rest ih =>
    cases line with
    | error cause =>
      rw [steps_unreadable, steps_unreadable]
      exact .both ⟨rfl, rfl, rfl⟩ (ih number counters)
    | ok line =>
      cases reading : Record.ofLine tag line with
      | matched record =>
        have read (skips : Bool) :
            Record.ofLine (LogSettings.mk tag skips).tag line = .matched record := reading
        rw [steps_matched (read false), steps_matched (read true)]
        exact .both ⟨rfl, rfl, rfl⟩ (ih _ _)
      | skipped =>
        have read (skips : Bool) :
            Record.ofLine (LogSettings.mk tag skips).tag line = .skipped := reading
        rw [steps_skipped (read false), steps_skipped (read true)]
        exact ih _ _
      | malformed fault =>
        have read (skips : Bool) :
            Record.ofLine (LogSettings.mk tag skips).tag line = .malformed fault := reading
        rw [steps_refused (read false) rfl, steps_passedOver (read true) rfl]
        exact .refused rfl rfl (ih _ _)

section
variable {strict lenient : List LogStep}

theorem LogStep.reports_eq_nil_iff {step : LogStep} :
    step.reports = [] ↔ step.notices = [] ∧ step.refusal? = none := by
  rw [reports, List.append_eq_nil_iff, Option.toList_eq_nil_iff]

theorem LogStep.Parallel.exists_cons (parallel : Parallel strict lenient) :
    ∃ first others, lenient = first :: others := by
  induction parallel with
  | last _ => exact ⟨_, _, rfl⟩
  | both _ _ _ => exact ⟨_, _, rfl⟩
  | refused _ _ _ ih =>
    obtain ⟨first, others, rfl⟩ := ih
    exact ⟨_, _, rfl⟩

/-- Both policies come upon the same records and the same lines that cannot be read. -/
theorem LogStep.Parallel.results (parallel : Parallel strict lenient) :
    (strict.filter (·.refusal?.isNone)).map (·.result) = lenient.map (·.result) := by
  induction parallel with
  | last alike =>
    have clean := (reports_eq_nil_iff.1 alike.clean).2
    simp [clean, alike.result]
  | both alike _ ih =>
    have clean := (reports_eq_nil_iff.1 alike.clean).2
    simp [clean, alike.result, ih]
  | refused refusal _ _ ih =>
    rw [map_note _ fun _ => rfl, ← ih]
    simp [refusal]

/-- What one policy refuses, the other gives notice of. -/
theorem LogStep.Parallel.refusals (parallel : Parallel strict lenient) :
    strict.filterMap refusal? = lenient.flatMap (·.notices) := by
  induction parallel with
  | last alike =>
    have clean := (reports_eq_nil_iff.1 alike.clean).2
    have otherClean := (reports_eq_nil_iff.1 alike.otherClean).1
    simp [clean, otherClean]
  | both alike _ ih =>
    have clean := (reports_eq_nil_iff.1 alike.clean).2
    have otherClean := (reports_eq_nil_iff.1 alike.otherClean).1
    simp [clean, otherClean, ih]
  | refused refusal _ later ih =>
    obtain ⟨first, others, rfl⟩ := later.exists_cons
    rw [List.filterMap_cons_some refusal, ih]
    rfl

theorem LogStep.Parallel.silent (parallel : Parallel strict lenient) :
    strict.flatMap (·.notices) = [] ∧ lenient.filterMap refusal? = [] := by
  induction parallel with
  | last alike =>
    have clean := (reports_eq_nil_iff.1 alike.clean).1
    have otherClean := (reports_eq_nil_iff.1 alike.otherClean).2
    simp [clean, otherClean]
  | both alike _ ih =>
    have clean := (reports_eq_nil_iff.1 alike.clean).1
    have otherClean := (reports_eq_nil_iff.1 alike.otherClean).2
    rw [List.flatMap_cons, clean, List.filterMap_cons_none otherClean]
    exact ih
  | refused refusal quiet later ih =>
    obtain ⟨first, others, rfl⟩ := later.exists_cons
    rw [List.flatMap_cons, quiet]
    exact ih

end

/-- Whether malformed records stop a reader or are passed over, it reads the same. Going on after
every error, it comes upon the same records and the same lines that cannot be read, in the same
order, and counts the same; the records that one policy refuses are those that the other gives
notice of. With either policy the reader yields all records of its log and stops behind the last
line, with every line counted by what it is. The counters tell after every step how many records
were yielded, how many malformed ones were reported and how many of the lines used up are in UTF-8;
the line number keeps step with them, and an error names it. -/
theorem LogReader.policies_read_alike (source tag : String) (content : ByteArray) :
    let strict := (start source ⟨tag, false⟩ (Text.rawLines content)).steps
    let lenient := (start source ⟨tag, true⟩ (Text.rawLines content)).steps
    (strict.filter (·.refusal?.isNone)).map (·.result) = lenient.map (·.result) ∧
      (strict.map (·.reader.counters)).getLast? = (lenient.map (·.reader.counters)).getLast? ∧
      strict.filterMap (·.refusal?) = lenient.flatMap (·.notices) ∧
      strict.flatMap (·.notices) = [] ∧ lenient.filterMap (·.refusal?) = [] ∧
      ∀ steps ∈ [strict, lenient], (steps.map (·.result)).getLast? = some (.ok none) ∧
        (steps.map (·.reader.pending)).getLast? = some [] ∧
        (steps.map (·.reader.counters)).getLast? =
          some (LogSettings.tally ⟨tag, false⟩ (Text.rawLines content)) ∧
        steps.filterMap (·.record?) =
          (Text.rawLines content).filterMap (LogSettings.record? ⟨tag, false⟩) ∧
        ∀ before step later, steps = before ++ step :: later →
          let counters := step.reader.counters
          counters.matched = ((before ++ [step]).filterMap (·.record?)).length ∧
          counters.malformed = ((before ++ [step]).flatMap (·.reports)).length ∧
          (∃ used rest, Text.byteLines content.data.toList = used ++ rest ∧
            step.reader.pending = rest.map Text.decodeLine ∧
            counters.lines =
              used.countP fun line => (String.fromUTF8? line.toByteArray).isSome) ∧
          step.reader.lineNumber = counters.lines ∧
          ∀ error, step.result = .error error → error.line = counters.lines := by
  intro strict lenient
  have parallel := steps_parallel source tag 0 {} (Text.rawLines content)
  have whole (skips : Bool) := steps_start source ⟨tag, skips⟩ (Text.rawLines content)
  obtain ⟨_, _, strictCounters, _⟩ := whole false
  obtain ⟨_, _, lenientCounters, _⟩ := whole true
  refine ⟨parallel.results, strictCounters.trans lenientCounters.symm, parallel.refusals,
    parallel.silent.1, parallel.silent.2, fun steps either => ?_⟩
  have reader : ∃ skips, steps = (start source ⟨tag, skips⟩ (Text.rawLines content)).steps := by
    rcases List.mem_cons.1 either with rfl | other
    · exact ⟨_, rfl⟩
    · exact ⟨_, List.mem_singleton.1 other⟩
  obtain ⟨skips, rfl⟩ := reader
  obtain ⟨result, pending, counters, records⟩ := whole skips
  refine ⟨result, pending, counters, records, fun before step later split => ?_⟩
  obtain ⟨consumed, accounts⟩ := exists_accounts_steps split
  obtain ⟨used, rest, lines, unread, decoded⟩ := Text.consumed_of_rawLines accounts.pending
  have counted := accounts.counters.trans (Counters.zero_plus _)
  have inStep : step.reader.lineNumber = step.reader.counters.lines := by
    rw [accounts.lineNumber, counted, LogSettings.lines_tally]
    exact Nat.zero_add _
  refine ⟨?_, ?_, ⟨used, rest, lines, unread, ?_⟩, inStep, fun error stopped => ?_⟩
  · rw [counted, accounts.records, LogSettings.matched_tally]
  · rw [counted, accounts.reports]
  · rw [counted, LogSettings.lines_tally]
    exact decoded
  · have member : step ∈ (start source ⟨tag, skips⟩ (Text.rawLines content)).steps := by
      rw [split]
      exact List.mem_append_right _ List.mem_cons_self
    obtain ⟨reader, rfl⟩ := exists_next member
    exact (advance_error_line stopped).trans inStep

end RangeTest
