import RangeTest.Command.Arguments
import RangeTest.Command.Failure
import RangeTest.Export.File
import RangeTest.Report
import RangeTest.Settings
import RangeTest.Survey.Dialogue
import RangeTest.Survey.Resolver

namespace RangeTest

/-- A run with its files and its operator. -/
structure Session where
  workspace : Workspace
  console : Console

def Session.start (files : FileTree) (typed : List RawLine) : Session where
  workspace := .ofFiles files
  console := .start typed .unlimited

def Session.work (failure : ε → Failure) (act : Act Workspace ε α) : Act Session Failure α :=
  Act.mapError failure <|
    Act.zoom Session.workspace (fun workspace session => { session with workspace }) act

def Session.report (title : String) (a : Analysis) : Act Session Failure Unit :=
  Act.mapError .report <|
    Act.zoom (·.console.output)
      (fun output session => { session with console := { session.console with output } })
      (Report.write title a.links)

/-- Reads the tables that are named. A table that is not named is empty. -/
def Session.survey (arguments : Arguments) : Act Session Failure Survey := do
  let nodes ← match arguments.path? .nodes with
    | some path => work (.nodeTable path) (NodeTable.load path)
    | none => pure .empty
  let sights ← match arguments.path? .sights with
    | some path => work (.sightTable path) (SightTable.load path)
    | none => pure .empty
  work id (Workspace.notify [.tablesLoaded nodes.size sights.size])
  return { nodes, sights }

/-- The export joins what is known of the site if there is a table of nodes or an operator to
ask. -/
def Arguments.joinsSite (a : Arguments) : Bool :=
  (a.path? .nodes).isSome || a.isInteractive

/-- Exports the received packets together with what the tables say and the operator answers. -/
def Session.exportJoined (arguments : Arguments) (settings : Settings) (a : Analysis)
    (path : String) : Act Session Failure Nat := do
  let survey ← survey arguments
  Act.mapError (.csv path) <|
    if arguments.isInteractive then
      Act.zoom (fun session => (Interview.mk survey session.console, session.workspace))
        (fun (interview, workspace) _ => { workspace, console := interview.console })
        (a.exportRows (some .interactive) settings.lengthFieldBytes path)
    else
      Act.zoom (fun session => (survey, session.workspace))
        (fun (_, workspace) session => { session with workspace })
        (a.exportRows (some .strict) settings.lengthFieldBytes path)

/-- Exports the received packets alone. -/
def Session.exportBare (arguments : Arguments) (settings : Settings) (a : Analysis)
    (path : String) : Act Session Failure Nat := do
  if (arguments.path? .sights).isSome then
    work id (Workspace.notify [.sightsWithoutNodes])
  Act.mapError (.csv path) <|
    Act.zoom (fun session => ((), session.workspace))
      (fun (_, workspace) session => { session with workspace })
      (a.exportRows (none : Option (Resolver Unit)) settings.lengthFieldBytes path)

def Session.exportCsv (arguments : Arguments) (settings : Settings) (a : Analysis) :
    Act Session Failure Unit := do
  if let some path := arguments.path? .csv then
    let _ ← if arguments.joinsSite then exportJoined arguments settings a path
      else exportBare arguments settings a path

def Session.exportSummary (arguments : Arguments) (a : Analysis) : Act Session Failure Unit := do
  if let some path := arguments.path? .summary then
    work (.summary path) (a.exportSummary arguments.rxLog arguments.txLog path)

/-- All paths that a run may look at. -/
def Arguments.allPaths (a : Arguments) : List String :=
  [a.rxLog, a.txLog, Settings.pathBeside a.rxLog] ++ a.paths.map (·.2)

/-- Does all that a command line asks for, up to the first failure. -/
def Session.run (arguments : Arguments) : Act Session Failure Unit := do
  let settings ← work .settings (Settings.resolve (arguments.path? .settings) arguments.rxLog)
  let analysis ← work .analysis (Analysis.ofFiles settings.log arguments.rxLog arguments.txLog)
  report arguments.rxLog analysis
  exportCsv arguments settings analysis
  exportSummary arguments analysis

end RangeTest
