import RangeTest.LinkSummary
import RangeTest.Log.Reader
import RangeTest.Workspace

namespace RangeTest

structure Analysis where
  correlator : Correlator
  rxCounters : Counters
  txCounters : Counters
  links : List LinkSummary

/-- Sums up what was taken in from two logs that were read to their ends. -/
def Analysis.conclude (c : Correlator) (rx tx : LogReader) : Analysis × List Notice :=
  let duplicates := if 0 < c.duplicates then [.duplicatesIgnored c.duplicates] else []
  ({ correlator := c, rxCounters := rx.counters, txCounters := tx.counters, links := c.summaries },
    [.logRead rx.source rx.counters, .logRead tx.source tx.counters] ++ duplicates ++ c.notices)

/-- Reads the whole receive log and then the transmit log, so that the receivers are known when the
transmissions are handed out to them. -/
def Analysis.correlate (rx tx : LogReader) : Except LoadError Analysis × List Notice :=
  match rx.drain Correlator.receive .empty with
  | (.error error, heard, _) => (.error error, heard)
  | (.ok received, heard, rx) =>
    match tx.drain Correlator.transmit received with
    | (.error error, more, _) => (.error error, heard ++ more)
    | (.ok correlator, more, tx) =>
      let (analysis, last) := conclude correlator rx tx
      (.ok analysis, heard ++ more ++ last)

inductive AnalysisError where
  | receiveLog (path : String) (cause : IoError)
  | transmitLog (path : String) (cause : IoError)
  | load (cause : LoadError)
  deriving DecidableEq, Repr

def AnalysisError.message : AnalysisError → String
  | receiveLog path _ => s!"Failed to open receive log {path}"
  | transmitLog path _ => s!"Failed to open transmit log {path}"
  | load _ => "Failed to analyze logs"

/-- What is behind the error, from the outside in. -/
def AnalysisError.causes : AnalysisError → List String
  | receiveLog _ cause => [cause.message]
  | transmitLog _ cause => [cause.message]
  | load cause => [cause.message, cause.cause]

/-- Opens a log. A folder can be opened as well, but its first line cannot be read. -/
def LogReader.ofFile (settings : LogSettings) (path : String) (files : FileTree) :
    Except IoError LogReader := do
  match ← files.look path with
  | .file content => return start path settings (Text.rawLines content)
  | .folder => return start path settings [.error .isADirectory]

/-- Analyzes two files. Both are opened before either of them is read. -/
def Analysis.ofFiles (settings : LogSettings) (rxLog txLog : String) :
    Act Workspace AnalysisError Analysis := do
  let rx ← Act.mapError (.receiveLog rxLog) (Workspace.inspect (LogReader.ofFile settings rxLog))
  let tx ← Act.mapError (.transmitLog txLog) (Workspace.inspect (LogReader.ofFile settings txLog))
  let (outcome, notices) := correlate rx tx
  Workspace.notify notices
  MonadExcept.ofExcept (outcome.mapError .load)

end RangeTest
