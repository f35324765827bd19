import RangeTest.Command.Outcome
import RangeTest.Proofs.Export.Storing
import RangeTest.Proofs.Export.Talk
import RangeTest.Proofs.Files.Writing

namespace RangeTest

/-- What an action comes to on some files. -/
def Workspace.answer (act : Act Workspace ε α) (files : FileTree) : Except ε α :=
  (Act.from act (.ofFiles files)).1

/-- An action that at most reads files, and gives notices. -/
abbrev Workspace.Reads (act : Act Workspace ε α) : Prop :=
  Act.Reads files act

theorem Workspace.inspect_reads (view : FileTree → Except ε α) : Reads (inspect view) :=
  .get_bind fun files => .ofExcept (view files)

theorem Workspace.notify_reads (notices : List Notice) :
    Reads (notify notices : Act Workspace ε Unit) where
  kept _ := rfl
  told _ := rfl

theorem SurveyError.load_reads (parse : String → Except SurveyError α) (path : String) :
    Workspace.Reads (load parse path) :=
  ((Workspace.inspect_reads _).mapError _).bind fun content => .ofExcept (parse content)

theorem Settings.load_reads (path : String) : Workspace.Reads (load path) :=
  ((Workspace.inspect_reads _).mapError _).bind fun content => .ofExcept (parse content)

theorem Settings.resolve_reads (named : Option String) (rxLog : String) :
    Workspace.Reads (resolve named rxLog) := by
  unfold resolve
  generalize named.getD (pathBeside rxLog) = path
  have chosen (found : Bool) :
      Workspace.Reads (if found then do
          Workspace.notify [.settingsLoading path]
          load path
        else do
          Workspace.notify [.settingsAbsent path]
          return default : Act Workspace SettingsError Settings) := by
    cases found with
    | true => exact (Workspace.notify_reads _).bind fun _ => load_reads path
    | false => exact (Workspace.notify_reads _).bind fun _ => .pure default
  exact .get_bind fun files => chosen (named.isSome || files.isFile path)

theorem Analysis.ofFiles_reads (settings : LogSettings) (rxLog txLog : String) :
    Workspace.Reads (ofFiles settings rxLog txLog) := by
  refine ((Workspace.inspect_reads _).mapError _).bind fun rx => ?_
  refine ((Workspace.inspect_reads _).mapError _).bind fun tx => ?_
  exact (Workspace.notify_reads _).bind fun _ => .ofExcept _

/-- An action of a run that reads files and does nothing else than to give notices. -/
def Session.Answers (act : Act Session ε α) (plain : FileTree → Except ε α) : Prop :=
  ∀ session, ∃ notices, Act.from act session =
    (plain session.workspace.files, ⟨⟨session.workspace.files, notices⟩, session.console⟩)

theorem Session.Answers.pure (value : α) :
    Answers (pure value : Act Session ε α) fun _ => .ok value :=
  fun session => ⟨session.workspace.notices, rfl⟩

theorem Session.Answers.bind {act : Act Session ε α} {plain : FileTree → Except ε α}
    {next : α → Act Session ε β} {follow : α → FileTree → Except ε β} (first : Answers act plain)
    (second : ∀ value, Answers (next value) (follow value)) :
    Answers (act >>= next) fun files => plain files >>= fun value => follow value files := by
  intro session
  obtain ⟨notices, began⟩ := first session
  rw [Act.from_bind, began]
  dsimp only
  cases plain session.workspace.files with
  | error error => exact ⟨notices, rfl⟩
  | ok value => exact second value ⟨⟨session.workspace.files, notices⟩, session.console⟩

theorem Session.work_answers {act : Act Workspace ε α} (reads : Workspace.Reads act)
    (failure : ε → Failure) :
    Answers (work failure act) fun files => (Workspace.answer act files).mapError failure := by
  intro session
  have told : (Act.from act session.workspace).1 = Workspace.answer act session.workspace.files :=
    reads.told rfl
  have kept := reads.kept session.workspace
  refine ⟨(Act.from act session.workspace).2.notices, ?_⟩
  rw [work, Act.from_mapError, Act.from_zoom, told, kept]

/-- The table of nodes that a command line names; a table that is not named is empty. -/
def Arguments.nodeTable (arguments : Arguments) (files : FileTree) : Except Failure NodeTable :=
  match arguments.path? .nodes with
  | some path => (Workspace.answer (NodeTable.load path) files).mapError (.nodeTable path)
  | none => .ok .empty

def Arguments.sightTable (arguments : Arguments) (files : FileTree) : Except Failure SightTable :=
  match arguments.path? .sights with
  | some path => (Workspace.answer (SightTable.load path) files).mapError (.sightTable path)
  | none => .ok .empty

def Arguments.survey (arguments : Arguments) (files : FileTree) : Except Failure Survey := do
  let nodes ← arguments.nodeTable files
  let sights ← arguments.sightTable files
  return { nodes, sights }

/-- A table that may be named, and what is done with it. -/
theorem Session.Answers.named {path? : Option String} {load : String → Act Session Failure α}
    {plain : String → FileTree → Except Failure α} {empty : α} {next : α → Act Session Failure β}
    {follow : α → FileTree → Except Failure β} (loads : ∀ path, Answers (load path) (plain path))
    (rest : ∀ value, Answers (next value) (follow value)) :
    Answers
      (match path? with
        | some path => load path >>= next
        | none => Pure.pure empty >>= next)
      fun files =>
        (match path? with
          | some path => plain path files
          | none => .ok empty) >>= fun value => follow value files := by
  cases path? with
  | some path => exact (loads path).bind rest
  | none => exact (Answers.pure empty).bind rest

theorem Session.survey_answers (arguments : Arguments) :
    Answers (survey arguments) arguments.survey := by
  refine Answers.named (fun path => work_answers (SurveyError.load_reads _ path) _) fun nodes => ?_
  refine Answers.named (fun path => work_answers (SurveyError.load_reads _ path) _) fun sights => ?_
  exact (work_answers (Workspace.notify_reads _) id).bind fun _ => .pure _

/-- The settings and the analysis of the logs that a command line names. -/
def Arguments.analyze (arguments : Arguments) (files : FileTree) :
    Except Failure (Settings × Analysis) := do
  let settings ← (Workspace.answer (Settings.resolve (arguments.path? .settings) arguments.rxLog)
    files).mapError .settings
  let a ← (Workspace.answer (Analysis.ofFiles settings.log arguments.rxLog arguments.txLog)
    files).mapError .analysis
  return (settings, a)

/-- The rows of the table that a command line asks for. -/
def Arguments.rows (arguments : Arguments) (settings : Settings) (a : Analysis) (path : String)
    (files : FileTree) (console : Console) : Except Failure (List Row) :=
  let lengthField := settings.lengthFieldBytes
  if arguments.joinsSite then do
    let survey ← arguments.survey files
    let outcome := if arguments.isInteractive then
        (Act.from (a.rows (some .interactive) lengthField) ⟨survey, console⟩).1
      else (Act.from (a.rows (some .strict) lengthField) survey).1
    outcome.mapError (.csv path)
  else
    (Act.from (a.rows (none : Option (Resolver Unit)) lengthField) ()).1.mapError (.csv path)

/-- Writes a table with its header. -/
def FileTree.writeRows (files : FileTree) (path : String) (rows : List Row) :
    Except Failure FileTree :=
  (files.write path (Csv.text (Row.header :: rows)).toUTF8).mapError fun cause =>
    .csv path (.io cause)

/-- The files with the table that a command line asks for, if it asks for one. -/
def Arguments.tabulate (arguments : Arguments) (settings : Settings) (a : Analysis)
    (files : FileTree) (console : Console) : Except Failure FileTree :=
  match arguments.path? .csv with
  | some path => do
    let rows ← arguments.rows settings a path files console
    files.writeRows path rows
  | none => .ok files

/-- A table that was asked for and made holds the header and all rows. -/
theorem Arguments.read_of_tabulate {arguments : Arguments} {settings : Settings} {a : Analysis}
    {files tabulated : FileTree} {console : Console} {path : String}
    (asked : arguments.path? .csv = some path)
    (made : arguments.tabulate settings a files console = .ok tabulated) :
    ∃ rows, arguments.rows settings a path files console = .ok rows ∧
      tabulated.read path = .ok (Csv.text (Row.header :: rows)).toUTF8 := by
  rw [tabulate, asked] at made
  obtain ⟨rows, built, written⟩ := Except.bind_eq_ok_iff.1 made
  exact ⟨rows, built, FileTree.read_write (Except.mapError_eq_ok_iff.1 written)⟩

/-- The files with the summary that a command line asks for, if it asks for one. -/
def Arguments.summarize (arguments : Arguments) (a : Analysis) (files : FileTree) :
    Except Failure FileTree :=
  match arguments.path? .summary with
  | some path =>
    (files.write path (Summary.text arguments.rxLog arguments.txLog a).toUTF8).mapError fun cause =>
      .summary path (.io cause)
  | none => .ok files

abbrev Session.files (s : Session) : FileTree :=
  s.workspace.files

theorem Session.exportSummary_stores (arguments : Arguments) (a : Analysis) :
    Act.Stores files (exportSummary arguments a) fun s => arguments.summarize a s.files := by
  unfold exportSummary Arguments.summarize
  cases arguments.path? .summary with
  | none => exact fun _ => .made rfl
  | some path =>
    have stores := a.exportSummary_stores arguments.rxLog arguments.txLog path
    have worked : Act.Stores files (work (.summary path)
        (a.exportSummary arguments.rxLog arguments.txLog path)) _ :=
      (stores.zoom (fun _ => rfl) fun _ _ => rfl).mapError (Failure.summary path)
    simp only [Except.mapError_mapError] at worked
    exact worked

section
variable (arguments : Arguments) (settings : Settings) (a : Analysis) (path : String)

theorem Session.exportRows_stores (resolver : Option (Resolver σ)) (lengthField : UInt32)
    (view : Session → σ × Workspace) (update : σ × Workspace → Session → Session)
    (seen : ∀ s, (view s).2 = s.workspace)
    (kept : ∀ changed s, (update changed s).workspace = changed.2) :
    Act.Stores files
      (Act.mapError (Failure.csv path)
        (Act.zoom view update (a.exportRows resolver lengthField path)))
      fun s => (Act.from (a.rows resolver lengthField) (view s).1).1.mapError (.csv path) >>=
        s.files.writeRows path := by
  have stores : Act.Stores files
      (Act.zoom view update (a.exportRows resolver lengthField path)) _ :=
    (a.exportRows_stores resolver lengthField path).zoom
      (fun s => congrArg Workspace.files (seen s)) fun _ _ => congrArg Workspace.files (kept _ _)
  have named := stores.mapError (Failure.csv path)
  simp only [Except.mapError_bind, Except.mapError_mapError, seen] at named
  exact named

theorem Session.exportJoined_stores (joins : arguments.joinsSite = true) :
    Act.Stores files (exportJoined arguments settings a path) fun s =>
      arguments.rows settings a path s.files s.console >>= s.files.writeRows path := by
  intro session
  obtain ⟨notices, loaded⟩ := survey_answers arguments session
  rw [exportJoined, Act.from_bind, loaded]
  dsimp only
  rw [Arguments.rows, if_pos joins]
  cases arguments.survey session.files with
  | error error => exact .refused rfl rfl
  | ok survey =>
    change Act.Stored files session.files (Except.mapError _ _ >>= _) _
    dsimp only
    by_cases asks : arguments.isInteractive = true
    · rw [if_pos asks, if_pos asks]
      exact exportRows_stores a path (some .interactive) settings.lengthFieldBytes
        (fun s => (⟨survey, s.console⟩, s.workspace))
        (fun changed _ => ⟨changed.2, changed.1.console⟩)
        (fun _ => rfl) (fun _ _ => rfl) ⟨⟨session.files, notices⟩, session.console⟩
    · rw [if_neg asks, if_neg asks]
      exact exportRows_stores a path (some .strict) settings.lengthFieldBytes
        (fun s => (survey, s.workspace)) (fun changed s => ⟨changed.2, s.console⟩)
        (fun _ => rfl) (fun _ _ => rfl) ⟨⟨session.files, notices⟩, session.console⟩

theorem Session.exportBare_stores (alone : ¬ arguments.joinsSite = true) :
    Act.Stores files (exportBare arguments settings a path) fun s =>
      arguments.rows settings a path s.files s.console >>= s.files.writeRows path := by
  have stores := exportRows_stores a path (none : Option (Resolver Unit)) settings.lengthFieldBytes
    (fun s => ((), s.workspace)) (fun changed s => ⟨changed.2, s.console⟩) (fun _ => rfl)
    fun _ _ => rfl
  intro session
  dsimp only
  rw [Arguments.rows, if_neg alone]
  unfold exportBare
  dsimp only
  split
  · obtain ⟨notices, warned⟩ :=
      work_answers (Workspace.notify_reads [.sightsWithoutNodes]) id session
    rw [Act.from_bind, warned]
    exact stores ⟨⟨session.files, notices⟩, session.console⟩
  · exact stores session

theorem Session.exportCsv_stores :
    Act.Stores files (exportCsv arguments settings a) fun s =>
      arguments.tabulate settings a s.files s.console := by
  unfold exportCsv Arguments.tabulate
  cases arguments.path? .csv with
  | none => exact fun _ => .made rfl
  | some path =>
    dsimp only
    split
    · rename_i joins
      exact (exportJoined_stores arguments settings a path joins).bind_quiet
        fun _ s => ⟨_, s, rfl, rfl⟩
    · rename_i alone
      exact (exportBare_stores arguments settings a path alone).bind_quiet
        fun _ s => ⟨_, s, rfl, rfl⟩

end

end RangeTest
