import RangeTest.Proofs.Log.Reading

namespace RangeTest

/-- All steps of a reader up to the end of its log, going on after errors. -/
def LogReader.steps (r : LogReader) : List LogStep :=
  match _more : r.next.result with
  | .ok none => [r.next]
  | .ok (some _) => r.next :: steps r.next.reader
  | .error _ => r.next :: steps r.next.reader
termination_by r.pending.length
decreasing_by all_goals exact advance_pending_lt (by rw [next] at _more; simp [_more])

def LoadError.line : LoadError → Nat
  | unreadable _ line _ => line
  | malformed _ line _ => line

def LogStep.record? (step : LogStep) : Option Record :=
  match step.result with
  | .ok record => record
  | .error _ => none

/-- The notice that a malformed record would have been passed over with, where it was refused. -/
def LogStep.refusal? (step : LogStep) : Option Notice :=
  match step.result with
  | .error (.malformed source line fault) => some (.malformedSkipped source line fault)
  | _ => none

/-- The malformed records that a step met, passed over or refused. -/
def LogStep.reports (step : LogStep) : List Notice :=
  step.notices ++ step.refusal?.toList

theorem LogReader.steps_of_ended {r : LogReader} (ended : r.next.result = .ok none) :
    r.steps = [r.next] := by
  rw [steps]
  split <;> rename_i outcome <;> rw [ended] at outcome <;> cases outcome

theorem LogReader.steps_of_more {r : LogReader} (more : r.next.result ≠ .ok none) :
    r.steps = r.next :: r.next.reader.steps := by
  rw [steps]
  split <;> rename_i outcome
  · exact absurd outcome more
  · rfl
  · rfl

theorem LogReader.steps_congr {r other : LogReader} (same : r.next = other.next) :
    r.steps = other.steps := by
  by_cases ended : r.next.result = .ok none
  · rw [steps_of_ended ended, steps_of_ended (same ▸ ended), same]
  · rw [steps_of_more ended, same]
    exact (steps_of_more (same ▸ ended)).symm

section
variable {source : String} {settings : LogSettings} {number : Nat} {counters : Counters}
  {rest : List RawLine}

theorem LogReader.steps_nil : steps ⟨source, settings, [], number, counters⟩ =
    [⟨.ok none, [], ⟨source, settings, [], number, counters⟩⟩] :=
  steps_of_ended rfl

theorem LogReader.steps_unreadable {cause : IoError} :
    steps ⟨source, settings, .error cause :: rest, number, counters⟩ =
      ⟨.error (.unreadable source number cause), [],
        ⟨source, settings, rest, number, counters⟩⟩ ::
      steps ⟨source, settings, rest, number, counters⟩ :=
  steps_of_more nofun

theorem LogReader.steps_matched {line : String} {record : Record}
    (reading : Record.ofLine settings.tag line = .matched record) :
    steps ⟨source, settings, .ok line :: rest, number, counters⟩ =
      ⟨.ok (some record), [], ⟨source, settings, rest, number + 1,
        { counters with matched := counters.matched + 1 }⟩⟩ ::
      steps ⟨source, settings, rest, number + 1,
        { counters with matched := counters.matched + 1 }⟩ := by
  rw [steps_of_more (by rw [next_matched reading]; nofun), next_matched reading]

theorem LogReader.steps_skipped {line : String}
    (reading : Record.ofLine settings.tag line = .skipped) :
    steps ⟨source, settings, .ok line :: rest, number, counters⟩ =
      steps ⟨source, settings, rest, number + 1,
        { counters with skipped := counters.skipped + 1 }⟩ :=
  steps_congr (next_skipped reading)

theorem LogReader.steps_refused {line : String} {fault : RecordFault}
    (reading : Record.ofLine settings.tag line = .malformed fault)
    (strict : settings.skipMalformed = false) :
    steps ⟨source, settings, .ok line :: rest, number, counters⟩ =
      ⟨.error (.malformed source (number + 1) fault), [], ⟨source, settings, rest, number + 1,
        { counters with malformed := counters.malformed + 1 }⟩⟩ ::
      steps ⟨source, settings, rest, number + 1,
        { counters with malformed := counters.malformed + 1 }⟩ := by
  rw [steps_of_more (by rw [next_refused reading strict]; nofun), next_refused reading strict]

/-- A step that was preceded by a malformed record. -/
def LogStep.note (notice : Notice) (step : LogStep) : LogStep :=
  { step with notices := notice :: step.notices }

theorem LogReader.steps_passedOver {line : String} {fault : RecordFault}
    (reading : Record.ofLine settings.tag line = .malformed fault)
    (lenient : settings.skipMalformed = true) :
    steps ⟨source, settings, .ok line :: rest, number, counters⟩ =
      (steps ⟨source, settings, rest, number + 1,
        { counters with malformed := counters.malformed + 1 }⟩).modifyHead
          (.note (.malformedSkipped source (number + 1) fault)) := by
  have step : next ⟨source, settings, .ok line :: rest, number, counters⟩ =
      (next ⟨source, settings, rest, number + 1,
        { counters with malformed := counters.malformed + 1 }⟩).note
          (.malformedSkipped source (number + 1) fault) := next_passedOver reading lenient
  by_cases ended : (next ⟨source, settings, rest, number + 1,
      { counters with malformed := counters.malformed + 1 }⟩).result = .ok none
  · rw [steps_of_ended ended, steps_of_ended (by rw [step]; exact ended), step]
    rfl
  · rw [steps_of_more ended, steps_of_more (by rw [step]; exact ended), step]
    rfl

end

theorem LogStep.map_note {f : LogStep → α} (notice : Notice)
    (blind : ∀ step : LogStep, f (step.note notice) = f step) (steps : List LogStep) :
    (steps.modifyHead (note notice)).map f = steps.map f := by
  cases steps with
  | nil => rfl
  | cons first rest => exact congrArg (· :: rest.map f) (blind first)

theorem LogReader.exists_next {r : LogReader} {step : LogStep} (member : step ∈ r.steps) :
    ∃ reader : LogReader, step = reader.next := by
  fun_induction steps r with
  | case1 r ended => exact ⟨r, List.mem_singleton.1 member⟩
  | case2 r record read ih =>
    rcases List.mem_cons.1 member with rfl | later
    · exact ⟨r, rfl⟩
    · exact ih later
  | case3 r error stopped ih =>
    rcases List.mem_cons.1 member with rfl | later
    · exact ⟨r, rfl⟩
    · exact ih later

/-- An error names the line at which the reader stands. -/
theorem LogReader.advance_error_line {source : String} {settings : LogSettings} {number : Nat}
    {counters : Counters} {lines : List RawLine} {error : LoadError}
    (stopped : (advance source settings number counters lines).result = .error error) :
    error.line = (advance source settings number counters lines).reader.lineNumber := by
  fun_induction advance source settings number counters lines with
  | case1 => cases stopped
  | case2 => cases stopped; rfl
  | case3 => cases stopped
  | case4 _ _ _ _ _ _ ih => exact ih stopped
  | case5 _ _ _ _ _ _ _ _ _ _ ih => exact ih stopped
  | case6 => cases stopped; rfl

/-- What some steps of a reader come to, which use up some lines: the steps yield the records of
these lines and report the malformed ones among them, and each line is counted by what it is. The
line number keeps step with the counters. -/
structure LogReader.Accounts (r : LogReader) (consumed : List RawLine) (steps : List LogStep)
    (last : LogReader) : Prop where
  pending : r.pending = consumed ++ last.pending
  settings : last.settings = r.settings
  records : steps.filterMap (·.record?) = consumed.filterMap r.settings.record?
  reports : (steps.flatMap (·.reports)).length = (r.settings.tally consumed).malformed
  counters : last.counters = r.counters.plus (r.settings.tally consumed)
  lineNumber : last.lineNumber = r.lineNumber + consumed.countP (·.isOk)

theorem LogReader.Accounts.append {r middle last : LogReader} {consumed more : List RawLine}
    {steps later : List LogStep} (first : Accounts r consumed steps middle)
    (second : Accounts middle more later last) :
    Accounts r (consumed ++ more) (steps ++ later) last where
  pending := by rw [first.pending, second.pending, List.append_assoc]
  settings := second.settings.trans first.settings
  records := by
    rw [List.filterMap_append, List.filterMap_append, first.records, second.records,
      first.settings]
  reports := by
    rw [List.flatMap_append, List.length_append, first.reports, second.reports, first.settings,
      LogSettings.tally_append]
    rfl
  counters := by
    rw [second.counters, first.counters, first.settings, LogSettings.tally_append,
      Counters.plus_assoc]
  lineNumber := by
    rw [second.lineNumber, first.lineNumber, List.countP_append, Nat.add_assoc]

/-- A line that can be decoded is used up by steps that yield its record, if it holds one, and
report it where it is malformed. -/
theorem LogReader.Accounts.ofLine {source : String} {settings : LogSettings} {number : Nat}
    {counters kind : Counters} {line : String} {rest : List RawLine} {record : Option Record}
    {steps : List LogStep} (held : settings.record? (.ok line) = record)
    (counted : settings.tally [.ok line] = kind)
    (records : steps.filterMap (·.record?) = record.toList)
    (reports : (steps.flatMap (·.reports)).length = kind.malformed) :
    Accounts ⟨source, settings, .ok line :: rest, number, counters⟩ [.ok line] steps
      ⟨source, settings, rest, number + 1, counters.plus kind⟩ where
  pending := rfl
  settings := rfl
  records := by
    rw [records, List.filterMap_cons, held]
    cases record <;> rfl
  reports := by rw [reports, counted]
  counters := by rw [counted]
  lineNumber := rfl

theorem LogReader.exists_accounts_advance (source : String) (settings : LogSettings) (number : Nat)
    (counters : Counters) (lines : List RawLine) :
    ∃ consumed, Accounts ⟨source, settings, lines, number, counters⟩ consumed
      [advance source settings number counters lines]
      (advance source settings number counters lines).reader := by
  fun_induction advance source settings number counters lines with
  | case1 => exact ⟨[], rfl, rfl, rfl, rfl, rfl, rfl⟩
  | case2 number counters cause rest => exact ⟨[.error cause], rfl, rfl, rfl, rfl, rfl, rfl⟩
  | case3 number counters line rest below record reading =>
    have held := settings.record?_ok line
    have counted := settings.tally_ok line
    rw [reading] at held counted
    exact ⟨_, .ofLine held counted rfl rfl⟩
  | case4 number counters line rest below reading ih =>
    have held := settings.record?_ok line
    have counted := settings.tally_ok line
    rw [reading] at held counted
    have skipped : Accounts ⟨source, settings, .ok line :: rest, number, counters⟩ [.ok line] []
        ⟨source, settings, rest, below, { counters with skipped := counters.skipped + 1 }⟩ :=
      .ofLine held counted rfl rfl
    obtain ⟨consumed, later⟩ := ih
    exact ⟨_, skipped.append later⟩
  | case5 number counters line rest below fault reading _ lenient step ih =>
    -- The record is passed over in the step that ends further on, so its notice comes first there.
    have held := settings.record?_ok line
    have counted := settings.tally_ok line
    rw [reading] at held counted
    obtain ⟨consumed, later⟩ := ih
    have kinds : settings.tally (.ok line :: consumed) =
        Counters.plus { malformed := 1 } (settings.tally consumed) := by
      rw [← List.singleton_append, LogSettings.tally_append, counted]
    refine ⟨.ok line :: consumed, congrArg (_ :: ·) later.pending, later.settings, ?_, ?_, ?_, ?_⟩
    · rw [List.filterMap_cons_none held]
      exact later.records
    · rw [kinds, Counters.plus, ← later.reports]
      simp only [LogStep.reports, List.flatMap_singleton, List.cons_append, List.length_cons]
      exact Nat.add_comm _ _
    · rw [kinds, ← Counters.plus_assoc]
      exact later.counters
    · refine later.lineNumber.trans ?_
      rw [List.countP_cons_of_pos rfl]
      exact Nat.add_right_comm _ _ _
  | case6 number counters line rest below fault reading =>
    have held := settings.record?_ok line
    have counted := settings.tally_ok line
    rw [reading] at held counted
    exact ⟨_, .ofLine held counted rfl rfl⟩

/-- What a reader accounts for after any number of steps. -/
theorem LogReader.exists_accounts_steps {r : LogReader} {before later : List LogStep}
    {step : LogStep} (split : r.steps = before ++ step :: later) :
    ∃ consumed, Accounts r consumed (before ++ [step]) step.reader := by
  induction before generalizing r with
  | nil =>
    have first : step = r.next := by
      by_cases ended : r.next.result = .ok none
      · rw [steps_of_ended ended] at split
        exact (List.cons.inj split).1.symm
      · rw [steps_of_more ended] at split
        exact (List.cons.inj split).1.symm
    rw [first]
    exact exists_accounts_advance _ _ _ _ _
  | cons first before ih =>
    by_cases ended : r.next.result = .ok none
    · rw [steps_of_ended ended] at split
      exact absurd (List.cons.inj split).2 (by simp)
    · rw [steps_of_more ended] at split
      obtain ⟨rfl, rest⟩ := List.cons.inj split
      obtain ⟨consumed, here⟩ := exists_accounts_advance r.source r.settings r.lineNumber
        r.counters r.pending
      obtain ⟨more, there⟩ := ih rest
      exact ⟨_, here.append there⟩

theorem LogReader.advance_ended {source : String} {settings : LogSettings} {number : Nat}
    {counters : Counters} {lines : List RawLine}
    (ended : (advance source settings number counters lines).result = .ok none) :
    (advance source settings number counters lines).reader.pending = [] := by
  fun_induction advance source settings number counters lines with
  | case1 => rfl
  | case2 => cases ended
  | case3 => cases ended
  | case4 _ _ _ _ _ _ ih => exact ih ended
  | case5 _ _ _ _ _ _ _ _ _ _ ih => exact ih ended
  | case6 => cases ended

/-- The last step of a reader comes to the end of its log. -/
theorem LogReader.exists_last_step (r : LogReader) : ∃ front last, r.steps = front ++ [last] ∧
    last.result = .ok none ∧ last.reader.pending = [] := by
  fun_induction steps r with
  | case1 r ended => exact ⟨[], r.next, rfl, ended, advance_ended ended⟩
  | case2 r record read ih =>
    obtain ⟨front, last, split, stopped⟩ := ih
    exact ⟨r.next :: front, last, congrArg (r.next :: ·) split, stopped⟩
  | case3 r error stopped ih =>
    obtain ⟨front, last, split, stopped⟩ := ih
    exact ⟨r.next :: front, last, congrArg (r.next :: ·) split, stopped⟩

/-- The steps of a reader yield all records of its log and stop behind its last line, with each line
counted by what it is. -/
theorem LogReader.steps_start (source : String) (settings : LogSettings) (lines : List RawLine) :
    let steps := (start source settings lines).steps
    (steps.map (·.result)).getLast? = some (.ok none) ∧
      (steps.map (·.reader.pending)).getLast? = some [] ∧
      (steps.map (·.reader.counters)).getLast? = some (settings.tally lines) ∧
      steps.filterMap (·.record?) = lines.filterMap settings.record? := by
  obtain ⟨front, last, split, result, pending⟩ := exists_last_step (start source settings lines)
  obtain ⟨consumed, accounts⟩ := exists_accounts_steps split
  have whole : lines = consumed := by
    have used := accounts.pending
    rwa [pending, List.append_nil] at used
  subst whole
  have counters := accounts.counters.trans (Counters.zero_plus _)
  intro steps
  have parts : steps = front ++ [last] := split
  have ends {α : Type} (f : LogStep → α) : (steps.map f).getLast? = some (f last) := by
    rw [parts, List.map_append, List.map_singleton, List.getLast?_concat]
  refine ⟨(ends _).trans (congrArg some result), (ends _).trans (congrArg some pending),
    (ends _).trans (congrArg some counters), ?_⟩
  rw [parts]
  exact accounts.records

/-- The lines that a reader has used up are lines of its content, and those of them that it read
are the ones in UTF-8. -/
theorem Text.consumed_of_rawLines {content : ByteArray} {consumed pending : List RawLine}
    (split : rawLines content = consumed ++ pending) :
    ∃ used rest, byteLines content.data.toList = used ++ rest ∧ pending = rest.map decodeLine ∧
      consumed.countP (·.isOk) =
        used.countP fun line => (String.fromUTF8? line.toByteArray).isSome := by
  obtain ⟨used, rest, lines, rfl, rfl⟩ := List.map_eq_append_iff.1 split
  refine ⟨used, rest, lines, rfl, ?_⟩
  rw [List.countP_map]
  refine congrArg (List.countP · used) (funext fun line => ?_)
  rw [Function.comp_apply, decodeLine]
  cases String.fromUTF8? line.toByteArray <;> rfl

end RangeTest
