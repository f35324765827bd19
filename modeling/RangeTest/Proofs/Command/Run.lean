import RangeTest.Proofs.Command.Stages

namespace RangeTest

/-- What was printed in a run so far. -/
abbrev Session.output (s : Session) : Sink :=
  s.console.output

section
variable {R : Sink → Sink → Prop} [IsPreorder Sink R]

theorem Session.Answers.moves {act : Act Session ε α} {plain : FileTree → Except ε α}
    (answers : Answers act plain) : Act.Moves output R act := by
  intro session
  obtain ⟨notices, ends⟩ := answers session
  rw [ends]
  exact refl_of R _

theorem Session.work_moves (act : Act Workspace ε α) (failure : ε → Failure) :
    Act.Moves output R (work failure act) := by
  intro session
  rw [work, Act.from_mapError, Act.from_zoom]
  exact refl_of R _

theorem Analysis.exportRows_moves {a : Analysis} {resolver : Option (Resolver σ)}
    {lengthField : UInt32} {part : σ → Sink}
    (moves : Act.Moves part R (a.rows resolver lengthField)) (path : String) :
    Act.Moves (fun state => part state.1) R (a.exportRows resolver lengthField path) :=
  Act.Moves.bind (fun state => moves state.1) fun _ _ => refl_of R _

variable {arguments : Arguments} {settings : Settings} {a : Analysis}

theorem Session.exportJoined_moves
    (moves : arguments.isInteractive = true → Act.Moves (·.console.output) R
      (a.rows (some .interactive) settings.lengthFieldBytes)) (path : String) :
    Act.Moves output R (exportJoined arguments settings a path) := by
  refine Act.Moves.bind (survey_answers arguments).moves fun survey session => ?_
  split
  · rename_i asks
    exact Analysis.exportRows_moves (moves asks) path
      (⟨survey, session.console⟩, session.workspace)
  · exact refl_of R _

theorem Session.exportSummary_moves :
    Act.Moves output R (exportSummary arguments a) := by
  unfold exportSummary
  split
  · exact work_moves _ _
  · exact .pure ()

theorem Session.exportBare_moves (path : String) :
    Act.Moves output R (exportBare arguments settings a path) := by
  have silent : Act.Moves output R (Act.mapError (Failure.csv path)
      (Act.zoom (fun session => ((), session.workspace))
        (fun changed session => { session with workspace := changed.2 })
        (a.exportRows (none : Option (Resolver Unit)) settings.lengthFieldBytes path))) :=
    fun _ => refl_of R _
  unfold exportBare
  dsimp only
  split
  · exact (work_moves _ id).bind fun _ => silent
  · exact silent

/-- Only the questions to an operator are printed by an export. -/
theorem Session.exportCsv_moves
    (moves : arguments.isInteractive = true → Act.Moves (·.console.output) R
      (a.rows (some .interactive) settings.lengthFieldBytes)) :
    Act.Moves output R (exportCsv arguments settings a) := by
  unfold exportCsv
  split
  · split
    · exact (exportJoined_moves moves _).bind fun _ => .pure ()
    · exact (exportBare_moves _).bind fun _ => .pure ()
  · exact .pure ()

end

/-- What is exported in a run, once the report is printed. -/
def Session.exports (arguments : Arguments) (settings : Settings) (a : Analysis) :
    Act Session Failure Unit := do
  exportCsv arguments settings a
  exportSummary arguments a

/-- The settings and the analysis of a run, as a step of it. -/
def Session.analyze (arguments : Arguments) : Act Session Failure (Settings × Analysis) := do
  let settings ← work .settings (Settings.resolve (arguments.path? .settings) arguments.rxLog)
  let a ← work .analysis (Analysis.ofFiles settings.log arguments.rxLog arguments.txLog)
  return (settings, a)

theorem Session.analyze_answers (arguments : Arguments) :
    Answers (analyze arguments) arguments.analyze := by
  refine (work_answers (Settings.resolve_reads _ _) _).bind fun settings => ?_
  exact (work_answers (Analysis.ofFiles_reads _ _ _) _).bind fun a => .pure (settings, a)

theorem Session.run_eq (arguments : Arguments) :
    run arguments = (do
      let (settings, a) ← analyze arguments
      report arguments.rxLog a
      exports arguments settings a) := by
  simp only [run, analyze, exports, bind_assoc, pure_bind]

/-- The operator's terminal once the report is printed. -/
def Console.reported (title : String) (a : Analysis) (typed : List RawLine) : Console :=
  .start typed ⟨none, (Report.text title a.links).toUTF8⟩

theorem Session.from_report (title : String) (a : Analysis) (workspace : Workspace)
    (typed : List RawLine) :
    Act.from (report title a) ⟨workspace, .start typed .unlimited⟩ =
      (.ok (), ⟨workspace, .reported title a typed⟩) := by
  rw [report, Act.from_mapError, Act.from_zoom]
  dsimp only [Console.start]
  rw [(Report.write_writes title a.links).from_unlimited]
  rfl

section
variable {arguments : Arguments} {files : FileTree} (typed : List RawLine)

theorem Session.from_analyze (arguments : Arguments) (files : FileTree) : ∃ notices,
    Act.from (analyze arguments) (.start files typed) =
      (arguments.analyze files, ⟨⟨files, notices⟩, .start typed .unlimited⟩) :=
  analyze_answers arguments (.start files typed)

theorem Session.run_of_analyze_error {failure : Failure}
    (failed : arguments.analyze files = .error failure) : ∃ notices,
      Act.from (run arguments) (.start files typed) =
        (.error failure, ⟨⟨files, notices⟩, .start typed .unlimited⟩) := by
  obtain ⟨notices, ends⟩ := from_analyze typed arguments files
  rw [failed] at ends
  refine ⟨notices, ?_⟩
  rw [run_eq, Act.from_bind, ends]

theorem Session.run_of_analyze_ok {settings : Settings} {a : Analysis}
    (analyzed : arguments.analyze files = .ok (settings, a)) : ∃ notices,
      Act.from (run arguments) (.start files typed) =
        Act.from (exports arguments settings a)
          ⟨⟨files, notices⟩, .reported arguments.rxLog a typed⟩ := by
  obtain ⟨notices, ends⟩ := from_analyze typed arguments files
  rw [analyzed] at ends
  refine ⟨notices, ?_⟩
  rw [run_eq, Act.from_bind, ends]
  dsimp only
  rw [Act.from_bind, from_report]

end

section
variable {arguments : Arguments} {settings : Settings} {a : Analysis} (s : Session)

/-- Nothing but talk with an operator follows the report. -/
theorem Session.exports_print {title : String} {typed : List RawLine}
    (begins : s.console = .reported title a typed) : ∃ talk,
      (Act.from (exports arguments settings a) s).2.output.text =
          Report.text title a.links ++ talk ∧
        (arguments.isInteractive = false → talk = "") := by
  by_cases asks : arguments.isInteractive = true
  · have moves : Act.Moves output Sink.Extends (exports arguments settings a) :=
      (exportCsv_moves fun _ => a.rows_talks _).bind fun _ => exportSummary_moves
    obtain ⟨_, talk, delivered⟩ := moves s
    refine ⟨talk, Sink.text_of_delivered ?_, fun silent => absurd asks (by simp [silent])⟩
    rw [delivered, output, begins]
    simp [Console.reported, Console.start, String.toUTF8_eq_toByteArray]
  · -- Without questions nothing is printed, which the relation above does not tell.
    have moves : Act.Moves output Eq (exports arguments settings a) :=
      (exportCsv_moves fun asks' => absurd asks' asks).bind fun _ => exportSummary_moves
    refine ⟨"", ?_, fun _ => rfl⟩
    rw [← moves s, output, begins, String.append_empty]
    exact Sink.text_of_delivered rfl

theorem Session.exports_of_tabulate_error {failure : Failure}
    (failed : arguments.tabulate settings a s.files s.console = .error failure) :
    ∃ after, Act.from (exports arguments settings a) s = (.error failure, after) ∧
      after.files = s.files := by
  obtain ⟨after, ends, same⟩ := (exportCsv_stores arguments settings a).of_error failed
  exact ⟨after, by rw [exports, Act.from_bind, ends], same⟩

theorem Session.exports_of_summarize_error {tabulated : FileTree} {failure : Failure}
    (made : arguments.tabulate settings a s.files s.console = .ok tabulated)
    (failed : arguments.summarize a tabulated = .error failure) :
    ∃ after, Act.from (exports arguments settings a) s = (.error failure, after) ∧
      after.files = tabulated := by
  obtain ⟨_, middle, ends, rfl⟩ := (exportCsv_stores arguments settings a).of_ok made
  obtain ⟨after, ends', same⟩ := (exportSummary_stores arguments a).of_error failed
  exact ⟨after, by rw [exports, Act.from_bind, ends]; exact ends', same⟩

theorem Session.exports_of_summarize_ok {tabulated final : FileTree}
    (made : arguments.tabulate settings a s.files s.console = .ok tabulated)
    (made' : arguments.summarize a tabulated = .ok final) :
    ∃ after, Act.from (exports arguments settings a) s = (.ok (), after) ∧ after.files = final := by
  obtain ⟨_, middle, ends, rfl⟩ := (exportCsv_stores arguments settings a).of_ok made
  obtain ⟨_, after, ends', same⟩ := (exportSummary_stores arguments a).of_ok made'
  exact ⟨after, by rw [exports, Act.from_bind, ends]; exact ends', same⟩

end

theorem Outcome.ofRun_of_error {arguments : Arguments} {files : FileTree} {typed : List RawLine}
    {failure : Failure} {s : Session}
    (ran : Act.from (Session.run arguments) (.start files typed) = (.error failure, s)) :
    ofRun arguments files typed = ⟨some failure, s, arguments.isVerbose⟩ := by
  rw [ofRun, ran]

theorem Outcome.ofRun_of_ok {arguments : Arguments} {files : FileTree} {typed : List RawLine}
    {s : Session} (ran : Act.from (Session.run arguments) (.start files typed) = (.ok (), s)) :
    ofRun arguments files typed = ⟨none, s, arguments.isVerbose⟩ := by
  rw [ofRun, ran]

theorem Outcome.session_ofRun {arguments : Arguments} {files : FileTree} {typed : List RawLine} :
    (ofRun arguments files typed).session =
      (Act.from (Session.run arguments) (.start files typed)).2 :=
  rfl

section
variable {arguments : Arguments} {files : FileTree} (typed : List RawLine)

theorem Outcome.ofRun_of_analyze_error {failure : Failure}
    (failed : arguments.analyze files = .error failure) :
    let o := ofRun arguments files typed
    o.failure = some failure ∧ o.printed = "" ∧ o.files = files := by
  obtain ⟨notices, ran⟩ := Session.run_of_analyze_error typed failed
  rw [ofRun_of_error ran]
  exact ⟨rfl, Sink.text_of_delivered rfl, rfl⟩

variable {settings : Settings} {a : Analysis}
  (analyzed : arguments.analyze files = .ok (settings, a))

include analyzed

theorem Outcome.printed_ofRun : ∃ talk,
    (ofRun arguments files typed).printed = Report.text arguments.rxLog a.links ++ talk ∧
      (arguments.isInteractive = false → talk = "") := by
  obtain ⟨notices, ran⟩ := Session.run_of_analyze_ok typed analyzed
  rw [printed, session_ofRun, ran]
  exact Session.exports_print _ rfl

theorem Outcome.ofRun_of_tabulate_error {failure : Failure}
    (failed : arguments.tabulate settings a files (.reported arguments.rxLog a typed) =
      .error failure) :
    let o := ofRun arguments files typed
    o.failure = some failure ∧ o.files = files := by
  obtain ⟨notices, ran⟩ := Session.run_of_analyze_ok typed analyzed
  obtain ⟨after, ends, same⟩ := Session.exports_of_tabulate_error
    ⟨⟨files, notices⟩, .reported arguments.rxLog a typed⟩ failed
  rw [ofRun_of_error (ran.trans ends)]
  exact ⟨rfl, same⟩

variable {tabulated : FileTree}
  (made : arguments.tabulate settings a files (.reported arguments.rxLog a typed) = .ok tabulated)

include made

theorem Outcome.ofRun_of_summarize_error {failure : Failure}
    (failed : arguments.summarize a tabulated = .error failure) :
    let o := ofRun arguments files typed
    o.failure = some failure ∧ o.files = tabulated := by
  obtain ⟨notices, ran⟩ := Session.run_of_analyze_ok typed analyzed
  obtain ⟨after, ends, same⟩ := Session.exports_of_summarize_error
    ⟨⟨files, notices⟩, .reported arguments.rxLog a typed⟩ made failed
  rw [ofRun_of_error (ran.trans ends)]
  exact ⟨rfl, same⟩

theorem Outcome.ofRun_of_summarize_ok {final : FileTree}
    (made' : arguments.summarize a tabulated = .ok final) :
    let o := ofRun arguments files typed
    o.failure = none ∧ o.files = final := by
  obtain ⟨notices, ran⟩ := Session.run_of_analyze_ok typed analyzed
  obtain ⟨after, ends, same⟩ := Session.exports_of_summarize_ok
    ⟨⟨files, notices⟩, .reported arguments.rxLog a typed⟩ made made'
  rw [ofRun_of_ok (ran.trans ends)]
  exact ⟨rfl, same⟩

end

theorem Outcome.status_eq_zero_iff {o : Outcome} : o.status = 0 ↔ o.failure = none := by
  rw [status]
  cases o.failure <;> simp

theorem Outcome.status_ofRun {arguments : Arguments} {files : FileTree} (typed : List RawLine) :
    (ofRun arguments files typed).status = 0 ↔ ∃ settings a tabulated final,
      arguments.analyze files = .ok (settings, a) ∧
      arguments.tabulate settings a files (.reported arguments.rxLog a typed) = .ok tabulated ∧
      arguments.summarize a tabulated = .ok final := by
  rw [status_eq_zero_iff]
  constructor
  · intro succeeded
    cases analyzed : arguments.analyze files with
    | error failure =>
      cases (ofRun_of_analyze_error typed analyzed).1.symm.trans succeeded
    | ok pair =>
      obtain ⟨settings, a⟩ := pair
      cases made : arguments.tabulate settings a files (.reported arguments.rxLog a typed) with
      | error failure =>
        cases (ofRun_of_tabulate_error typed analyzed made).1.symm.trans succeeded
      | ok tabulated =>
        cases made' : arguments.summarize a tabulated with
        | error failure =>
          cases (ofRun_of_summarize_error typed analyzed made made').1.symm.trans succeeded
        | ok final => exact ⟨settings, a, tabulated, final, rfl, made, made'⟩
  · rintro ⟨settings, a, tabulated, final, analyzed, made, made'⟩
    exact (ofRun_of_summarize_ok typed analyzed made made').1

/-- A run that fails leaves the files alone. If the settings or the logs cannot be used, nothing is
printed and no file is touched. Otherwise the whole report is printed, and only questions to an
operator follow it. If the table cannot be exported then, for whatever reason, no file is touched
either. If only the summary fails, the table that was asked for holds the header and all rows. The
status of the run is 0 if and only if all stages succeed. -/
theorem Outcome.files_of_failed_run {command : List String} {arguments : Arguments}
    (understood : Arguments.parse command = .ok arguments) (files : FileTree)
    (typed : List RawLine) : ∃ o, Reply.ofCommand command files typed = .ran o ∧
      (∀ failure, arguments.analyze files = .error failure →
        o.failure = some failure ∧ o.printed = "" ∧ o.files = files) ∧
      (∀ settings a console, arguments.analyze files = .ok (settings, a) →
        console = .reported arguments.rxLog a typed →
          (∃ talk, o.printed = Report.text arguments.rxLog a.links ++ talk ∧
            (arguments.isInteractive = false → talk = "")) ∧
          (∀ failure, arguments.tabulate settings a files console = .error failure →
            o.failure = some failure ∧ o.files = files) ∧
          ∀ tabulated, arguments.tabulate settings a files console = .ok tabulated →
            (∀ failure, arguments.summarize a tabulated = .error failure →
              o.failure = some failure ∧ o.files = tabulated ∧
                ∀ path, arguments.path? .csv = some path →
                  ∃ rows, arguments.rows settings a path files console = .ok rows ∧
                    o.files.read path = .ok (Csv.text (Row.header :: rows)).toUTF8) ∧
            ∀ final, arguments.summarize a tabulated = .ok final →
              o.failure = none ∧ o.files = final) ∧
      (o.status = 0 ↔ ∃ settings a tabulated final,
        arguments.analyze files = .ok (settings, a) ∧
        arguments.tabulate settings a files (.reported arguments.rxLog a typed) = .ok tabulated ∧
        arguments.summarize a tabulated = .ok final) := by
  refine ⟨.ofRun arguments files typed, by rw [Reply.ofCommand, understood], ?_, ?_, ?_⟩
  · exact fun failure failed => ofRun_of_analyze_error typed failed
  · rintro settings a console analyzed rfl
    refine ⟨printed_ofRun typed analyzed, ?_, fun tabulated made => ⟨?_, ?_⟩⟩
    · exact fun failure failed => ofRun_of_tabulate_error typed analyzed failed
    · intro failure failed
      obtain ⟨names, left⟩ := ofRun_of_summarize_error typed analyzed made failed
      refine ⟨names, left, fun path asked => ?_⟩
      rw [left]
      exact Arguments.read_of_tabulate asked made
    · exact fun final made' => ofRun_of_summarize_ok typed analyzed made made'
  · exact status_ofRun typed

/-- Two logs of one packet, which `A` received of `B`, and a table from before. -/
def FileTree.ofSample : FileTree :=
  ⟨[(["rx.log"], .file ((Record.sample 1 "A").line "csv-log: " ++ "\n").toUTF8),
    (["tx.log"], .file ((Record.sample 1 "B").line "csv-log: " ++ "\n").toUTF8),
    (["rows.csv"], .file "old\n".toUTF8)]⟩

/-- What asks for a table, and for a summary in a folder that does not exist. -/
def Arguments.ofSample : Arguments where
  rxLog := "rx.log"
  txLog := "tx.log"
  paths := [(.csv, "rows.csv"), (.summary, "lost/summary.json")]
  isInteractive := false
  isVerbose := false

theorem Arguments.stages_ofSample : ∃ settings a tabulated,
    ofSample.analyze .ofSample = .ok (settings, a) ∧
      ofSample.tabulate settings a .ofSample (.reported "rx.log" a []) = .ok tabulated ∧
      ofSample.summarize a tabulated = .error (.summary "lost/summary.json" (.io .notFound)) := by
  have checked : ((ofSample.analyze .ofSample).toOption.bind fun (settings, a) =>
      (ofSample.tabulate settings a .ofSample (.reported "rx.log" a [])).toOption.map fun made =>
        match ofSample.summarize a made with
        | .ok _ => none
        | .error failure => some failure) =
      some (some (.summary "lost/summary.json" (.io .notFound))) := by decide +kernel
  obtain ⟨⟨settings, a⟩, analyzed, checked⟩ := Option.bind_eq_some_iff.1 checked
  obtain ⟨tabulated, made, failed⟩ := Option.map_eq_some_iff.1 checked
  refine ⟨settings, a, tabulated, Except.toOption_eq_some_iff.1 analyzed,
    Except.toOption_eq_some_iff.1 made, ?_⟩
  cases ended : ofSample.summarize a tabulated with
  | ok final =>
    rw [ended] at failed
    cases failed
  | error failure =>
    rw [ended] at failed
    cases failed
    rfl

/-- The table is complete if the summary cannot be written. -/
theorem Outcome.files_of_failed_run_summary : ∃ o, ∃ a : Analysis, ∃ rows,
    Reply.ofCommand ["rx.log", "tx.log", "-c", "rows.csv", "-s", "lost/summary.json"] .ofSample [] =
        .ran o ∧
      o.printed = Report.text "rx.log" a.links ∧
      o.failure = some (.summary "lost/summary.json" (.io .notFound)) ∧ o.status ≠ 0 ∧
      FileTree.ofSample.read "rows.csv" = .ok "old\n".toUTF8 ∧
      o.files.read "rows.csv" = .ok (Csv.text (Row.header :: rows)).toUTF8 := by
  have understood : Arguments.parse
      ["rx.log", "tx.log", "-c", "rows.csv", "-s", "lost/summary.json"] = .ok .ofSample := rfl
  have before : (FileTree.ofSample.read "rows.csv").toOption = some "old\n".toUTF8 := by
    decide +kernel
  obtain ⟨settings, a, tabulated, analyzed, made, failed⟩ := Arguments.stages_ofSample
  obtain ⟨o, ran, _, reported, _⟩ := files_of_failed_run understood .ofSample []
  obtain ⟨⟨talk, printed, silent⟩, _, exported⟩ := reported settings a _ analyzed rfl
  obtain ⟨names, _, holds⟩ := (exported tabulated made).1 _ failed
  obtain ⟨rows, _, read⟩ := holds "rows.csv" rfl
  refine ⟨o, a, rows, ran, ?_, names, ?_, Except.toOption_eq_some_iff.1 before, read⟩
  · rw [printed, silent rfl]
    exact String.append_empty
  · rw [Ne, status_eq_zero_iff, names]
    exact nofun

end RangeTest
